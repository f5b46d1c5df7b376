/-
Arrays and objects are read piece by piece.

Whatever reads what stands between brackets does so in steps, with fuel for every character that is
left. A run `Leads` from one state and text to others if it comes there with fuel to spare, and such
runs can be joined. So it is enough to know how a state changes over one piece, behind a bracket and
behind a comma; how it changes over all of them, in any layout, follows once for all readers
(`Leads.listed`).

From this come the elements of an array, of which each is taken for a value, and the members of an
object, of which each carries a state on. If such an array or object breaks off in front of a piece
that is no good, the fault is the one of that piece.
-/
import Rollup.Proofs.Json.Scalar

set_option autoImplicit false

namespace Rollup.Json

/-! ## What stands behind a piece -/

/-- A comma or a closing bracket ends what stands in front of it. -/
theorem Ends.cons {c : Char} (h : c = ',' ∨ c = ']' ∨ c = '\x7d') (rest : List Char) :
    Ends (c :: rest) := fun d hd => .inr (by obtain rfl := Option.some.inj hd; exact h)

/-- White space in front changes nothing. -/
theorem Ends.gap_append {gap rest : List Char} (hgap : IsGap gap) (h : Ends rest) :
    Ends (gap ++ rest) := by
  rcases gap with _ | ⟨c, gap⟩
  · exact h
  · intro d hd
    obtain rfl := Option.some.inj hd
    exact .inl (hgap c List.mem_cons_self)

/-- A piece ends where further pieces follow, if there are none where the brackets close. -/
theorem Continues.ends {pieces : List (List Char)} {text rest : List Char}
    (h : Continues pieces text) (hrest : Ends rest) : Ends (text ++ rest) := by
  cases h with
  | nil => exact hrest
  | cons hgap _ _ =>
    rw [List.append_assoc]
    exact Ends.gap_append hgap (.cons (.inl rfl) _)

/-! ## Runs with fuel -/

section

variable {σ β : Type}

/-- Taking steps from one state and text a run comes to others, with fuel for the text that is
left. -/
def Leads (run : Fuel → σ → List Char → β) (s : σ) (text : List Char) (s' : σ)
    (text' : List Char) : Prop :=
  ∀ fuel : Fuel, text.length < fuel.length →
    ∃ fuel' : Fuel, text'.length < fuel'.length ∧ run fuel s text = run fuel' s' text'

namespace Leads

variable {run : Fuel → σ → List Char → β} {s s' s'' : σ} {text text' text'' : List Char}

theorem refl : Leads run s text s text := fun fuel hfuel => ⟨fuel, hfuel, rfl⟩

/-- Two runs are joined where the first one comes to. -/
theorem trans (h : Leads run s text s' text') (h' : Leads run s' text' s'' text'') :
    Leads run s text s'' text'' := by
  intro fuel hfuel
  obtain ⟨fuel', hfuel', hrun⟩ := h fuel hfuel
  obtain ⟨fuel'', hfuel'', hrun'⟩ := h' fuel' hfuel'
  exact ⟨fuel'', hfuel'', hrun.trans hrun'⟩

/-- A step that takes at least one character. -/
theorem of_step (hlength : text'.length < text.length)
    (h : ∀ f fuel, run (f :: fuel) s text = run fuel s' text') : Leads run s text s' text' := by
  -- One unit of fuel is spent on the step, and at least one character is.
  intro fuel hfuel
  obtain ⟨f, fuel, rfl⟩ := List.exists_cons_of_length_pos (Nat.zero_lt_of_lt hfuel)
  rw [List.length_cons] at hfuel
  exact ⟨fuel, by omega, h f fuel⟩

/-- What comes out in the end. -/
theorem run_eq (h : Leads run s text s' text') {b : β}
    (hlast : ∀ f fuel, run (f :: fuel) s' text' = b) : run (fuelFor text) s text = b := by
  obtain ⟨fuel, hfuel, hrun⟩ := h (fuelFor text) (Nat.lt_succ_self _)
  obtain ⟨f, fuel, rfl⟩ := List.exists_cons_of_length_pos (Nat.zero_lt_of_lt hfuel)
  rw [hrun, hlast]

end Leads

/-! ## Pieces one after the other -/

/-- Steps from one state to another, one for each of some pieces. -/
inductive Path {τ π : Type} (via : τ → π → τ → Prop) : τ → List π → τ → Prop where
  | nil {t : τ} : Path via t [] t
  | cons {t t₁ t' : τ} {p : π} {ps : List π} : via t p t₁ → Path via t₁ ps t' →
    Path via t (p :: ps) t'

/-- If a step from any state is known, then so is the way through all pieces. -/
theorem Path.foldl {τ π : Type} (via : τ → π → τ → Prop) {f : τ → π → τ} {ps : List π}
    (h : ∀ p ∈ ps, ∀ t, via t p (f t p)) (t : τ) : Path via t ps (ps.foldl f t) := by
  induction ps generalizing t with
  | nil => exact .nil
  | cons p ps ih =>
    exact .cons (h p List.mem_cons_self t) (ih (fun q hq => h q (List.mem_cons_of_mem p hq)) _)

/-- How a run takes a piece behind the opening bracket, and how behind another piece. -/
structure Walks {τ π : Type} (run : Fuel → σ → List Char → β) (opened behind : τ → σ)
    (piece : π → List Char) (via : τ → π → τ → Prop) : Prop where
  first : ∀ {t t' : τ} {p : π} {gap rest : List Char}, via t p t' → IsGap gap → Ends rest →
    Leads run (opened t) (gap ++ (piece p ++ rest)) (behind t') rest
  further : ∀ {t t' : τ} {p : π} {gap gap' rest : List Char}, via t p t' → IsGap gap →
    IsGap gap' → Ends rest →
    Leads run (behind t) (gap ++ ',' :: (gap' ++ (piece p ++ rest))) (behind t') rest

namespace Walks

variable {τ π : Type} {run : Fuel → σ → List Char → β} {opened behind : τ → σ}
  {piece : π → List Char} {via : τ → π → τ → Prop} {t t' : τ} {ps : List π} {text rest : List Char}

/-- Over further pieces, by induction on their number. -/
theorem continues (w : Walks run opened behind piece via) (hps : Path via t ps t')
    (h : Continues (ps.map piece) text) (hrest : Ends rest) :
    Leads run (behind t) (text ++ rest) (behind t') rest := by
  induction hps generalizing text with
  | nil =>
    cases h
    exact .refl
  | cons hp _ ih =>
    rw [List.map_cons] at h
    cases h with
    | cons hgap hgap' hcontinues =>
      rw [List.append_assoc, List.cons_append, List.append_assoc, List.append_assoc]
      -- Over this piece and the comma in front of it, and then over the others.
      exact (w.further hp hgap hgap' (hcontinues.ends hrest)).trans (ih hcontinues)

/-- **Over all pieces between brackets.** What is left of them is white space, at the beginning or
behind the last piece. -/
theorem listed (w : Walks run opened behind piece via) (hps : Path via t ps t')
    (h : Listed (ps.map piece) text) (hrest : Ends rest) :
    ∃ s' ∈ [opened t', behind t'], ∃ gap, IsGap gap ∧
      Leads run (opened t) (text ++ rest) s' (gap ++ rest) := by
  cases hps with
  | nil =>
    cases h with
    -- Between brackets without a piece there is white space at most.
    | nil hgap => exact ⟨_, List.mem_cons_self, text, hgap, .refl⟩
  | cons hp hps =>
    rw [List.map_cons] at h
    cases h with
    -- The first piece has no comma in front of it, and all others do.
    | @cons gap gap' _ text _ hgap hcontinues hgap' =>
      have hends := Ends.gap_append hgap' hrest
      rw [List.append_assoc, List.append_assoc, List.append_assoc]
      exact ⟨_, List.mem_cons_of_mem _ List.mem_cons_self, gap', hgap',
        (w.first hp hgap (hcontinues.ends hends)).trans (w.continues hps hcontinues hends)⟩

/-- Over the pieces in front of one at which reading fails. -/
theorem precedes (w : Walks run opened behind piece via) (hps : Path via t ps t')
    (h : Precedes (ps.map piece) text) {b : β}
    (hfirst : ∀ gap, IsGap gap → ∀ f fuel, run (f :: fuel) (opened t') (gap ++ rest) = b)
    (hfurther : ∀ gap gap', IsGap gap → IsGap gap' → ∀ f fuel,
      run (f :: fuel) (behind t') (gap ++ ',' :: (gap' ++ rest)) = b) :
    run (fuelFor (text ++ rest)) (opened t) (text ++ rest) = b := by
  cases hps with
  | nil =>
    cases h with
    | nil hgap => exact Leads.refl.run_eq (hfirst _ hgap)
  | cons hp hps =>
    rw [List.map_cons] at h
    cases h with
    | @cons gap gap' gap'' _ text _ hgap hcontinues hgap' hgap'' =>
      -- The piece at which reading fails stands behind a comma.
      have hends : Ends (gap' ++ ',' :: (gap'' ++ rest)) :=
        Ends.gap_append hgap' (.cons (.inl rfl) _)
      have hleads := (w.first hp hgap (hcontinues.ends hends)).trans
        (w.continues hps hcontinues hends)
      simp only [List.append_assoc, List.cons_append]
      exact hleads.run_eq (hfurther _ _ hgap' hgap'')

end Walks

end

/-! ## Arrays -/

section

variable {α : Type} {read : Reader α} {gap gap' piece rest : List Char}

/-- An element in an array that has just been opened needs no comma. -/
theorem nextElement_first (hgap : IsGap gap) (h : Begins piece) :
    nextElement true (gap ++ (piece ++ rest)) = .ok (some (piece ++ rest)) := by
  rw [nextElement, skipGap_begins hgap h]
  -- What begins a value does not close the array.
  obtain ⟨c, hc, tail, rfl⟩ := h
  rw [List.cons_append]
  split
  next heq => cases heq
  next heq => exact absurd (List.cons.inj heq).1 (beginnings_spec c hc).2.2.1
  next heq =>
    rw [← heq]
    rfl

/-- A further element stands behind a comma. -/
theorem nextElement_comma (hgap : IsGap gap) (hgap' : IsGap gap') (h : Begins piece) :
    nextElement false (gap ++ ',' :: (gap' ++ (piece ++ rest))) = .ok (some (piece ++ rest)) := by
  have hskip := skipGap_begins hgap' h rest
  obtain ⟨c, hc, tail, rfl⟩ := h
  rw [nextElement, skipGap_append hgap, skipGap_cons (by decide)]
  split
  next heq => cases heq
  next heq => exact absurd (List.cons.inj heq).1 (by decide)
  next heq =>
    cases heq
    simp only [Bool.false_eq_true, if_false, if_true, hskip]
    split
    next heq => cases heq
    -- A bracket here would be one behind a comma too many.
    next heq => exact absurd (List.cons.inj heq).1 (beginnings_spec c hc).2.2.1
    next => rfl

/-- A bracket says that there is no further element. -/
theorem nextElement_close (first : Bool) (hgap : IsGap gap) :
    nextElement first (gap ++ ']' :: rest) = .ok none := by
  rw [nextElement, skipGap_append hgap, skipGap_cons (by decide)]
  rfl

theorem closeArray_append (hgap : IsGap gap) : closeArray (gap ++ ']' :: rest) = .ok rest := by
  rw [closeArray, skipGap_append hgap, skipGap_cons (by decide)]
  rfl

/-- The reader of elements, with its state in one piece. -/
def elementsFrom (read : Reader α) (fuel : Fuel) (s : Bool × List α) (text : List Char) :
    Except Stop (List α × List Char) := readElements read fuel s.1 s.2 text

/-- An element that is there is put before the others. -/
theorem elementsFrom_next {first : Bool} {before : List α} {text : List Char} {a : α}
    (hnext : nextElement first text = .ok (some (piece ++ rest))) (h : Takes read piece a)
    (hrest : Ends rest) (f : Char) (fuel : Fuel) :
    elementsFrom read (f :: fuel) (first, before) text =
      elementsFrom read fuel (false, a :: before) rest := by
  have hread := h.reads isGap_nil hrest
  rw [List.nil_append] at hread
  simp only [elementsFrom, readElements, hnext, hread, bind, Except.bind]

/-- An element that cannot be read ends the array with its fault. -/
theorem elementsFrom_error {first : Bool} {before : List α} {text : List Char} {stop : Stop}
    (hnext : nextElement first text = .ok (some rest)) (h : read rest = .error stop) (f : Char)
    (fuel : Fuel) : elementsFrom read (f :: fuel) (first, before) text = .error stop := by
  simp only [elementsFrom, readElements, hnext, h, bind, Except.bind]

/-- At the bracket the elements are turned round. -/
theorem elementsFrom_close (first : Bool) (before : List α) (hgap : IsGap gap) (f : Char)
    (fuel : Fuel) : elementsFrom read (f :: fuel) (first, before) (gap ++ ']' :: rest) =
      .ok (before.reverse, rest) := by
  simp only [elementsFrom, readElements, nextElement_close first hgap, closeArray_append hgap, bind,
    Except.bind]

/-- An element that is taken for a value adds this value. -/
theorem walks_elementsFrom (read : Reader α) :
    Walks (elementsFrom read) (fun before => (true, before)) (fun before => (false, before))
      Prod.fst fun before p before' => Takes read p.1 p.2 ∧ before' = p.2 :: before where
  first := by
    rintro before _ ⟨piece, a⟩ gap rest ⟨h, rfl⟩ hgap hrest
    obtain ⟨c, -, tail, rfl⟩ := h.begins
    exact .of_step (by simp only [List.length_append, List.length_cons]; omega)
      (elementsFrom_next (nextElement_first hgap h.begins) h hrest)
  further := by
    rintro before _ ⟨piece, a⟩ gap gap' rest ⟨h, rfl⟩ hgap hgap' hrest
    exact .of_step (by simp only [List.length_append, List.length_cons]; omega)
      (elementsFrom_next (nextElement_comma hgap hgap' h.begins) h hrest)

/-- Elements that are taken for values lead to these, the last one first. -/
theorem path_elements {items : List (List Char × α)} (h : ∀ p ∈ items, Takes read p.1 p.2) :
    Path (fun before (p : List Char × α) before' => Takes read p.1 p.2 ∧ before' = p.2 :: before)
      [] items (items.map Prod.snd).reverse := by
  have hpath := Path.foldl (fun before (p : List Char × α) before' =>
    Takes read p.1 p.2 ∧ before' = p.2 :: before) (fun p hp before => ⟨h p hp, rfl⟩) []
  rwa [List.foldl_flip_cons_eq_append, List.append_nil] at hpath

/-- **An array is read as the values of its elements**, in any layout. -/
theorem takes_readArray {items : List (List Char × α)} {text : List Char}
    (hitems : ∀ p ∈ items, Takes read p.1 p.2) (h : Listed (items.map Prod.fst) text) :
    Takes (readArray read) ('[' :: (text ++ [']'])) (items.map Prod.snd) := by
  refine ⟨⟨'[', by decide, _, rfl⟩, fun {gap rest} hgap hrest => ?_⟩
  obtain ⟨s, hs, gap', hgap', hleads⟩ :=
    (walks_elementsFrom read).listed (path_elements hitems) h (.cons (.inr (.inl rfl)) rest)
  rw [List.cons_append, List.append_assoc, readArray, skipGap_append hgap,
    skipGap_cons (by decide)]
  refine hleads.run_eq fun f fuel => ?_
  -- Whether the array is empty makes no difference at the bracket.
  obtain ⟨first, rfl⟩ : ∃ first, s = (first, (items.map Prod.snd).reverse) := by
    rcases List.mem_cons.mp hs with rfl | hs
    · exact ⟨true, rfl⟩
    · exact ⟨false, List.mem_singleton.mp hs⟩
  rw [elementsFrom_close first _ hgap', List.reverse_reverse]

/-- An array breaks at the first element that cannot be read. -/
theorem readArray_error {items : List (List Char × α)} {text : List Char} {stop : Stop}
    (hitems : ∀ p ∈ items, Takes read p.1 p.2) (h : Precedes (items.map Prod.fst) text)
    (hgap : IsGap gap) (hbegins : Begins piece) (herror : read (piece ++ rest) = .error stop) :
    readArray read (gap ++ '[' :: (text ++ (piece ++ rest))) = .error stop := by
  rw [readArray, skipGap_append hgap, skipGap_cons (by decide)]
  refine (walks_elementsFrom read).precedes (path_elements hitems) h (fun gap hgap => ?_)
    fun gap gap' hgap hgap' => ?_
  · -- It is the first one in the array, or it stands behind a comma.
    exact elementsFrom_error (nextElement_first hgap hbegins) herror
  · exact elementsFrom_error (nextElement_comma hgap hgap' hbegins) herror

end

/-! ## Objects -/

section

variable {σ : Type} {member : σ → List Char → Reader σ} {gap gap' rest : List Char}

/-- A mark that is expected may have white space in front of it. -/
theorem expect_append {mark : Char} (hgap : IsGap gap) (hmark : isGap mark = false) :
    expect mark (gap ++ mark :: rest) = .ok rest := by
  rw [expect, skipGap_append hgap, skipGap_cons hmark]
  exact if_pos rfl

/-- Behind a name the colon is taken off. -/
theorem readColon_behindName (m : Member) (rest : List Char) :
    readColon (m.behindName ++ rest) = .ok (m.after ++ (m.value ++ rest)) := by
  rw [Member.behindName, List.append_assoc, List.cons_append, List.append_assoc]
  exact expect_append m.isGap_before (by decide)

/-- A name is read as what it spells. -/
theorem readKey_quoted {body content : List Char} (h : Spells body content) (hgap : IsGap gap)
    (rest : List Char) : readKey (gap ++ (quoted body ++ rest)) = .ok (content, rest) := by
  rw [readKey, quoted_append, skipGap_append hgap, skipGap_cons (by decide)]
  exact takeString_of_spells h rest

/-- A member of an object carries a state on to the next one. -/
def Carries (member : σ → List Char → Reader σ) (s : σ) (m : Named) (s' : σ) : Prop :=
  ∀ rest, Ends rest → member s m.name (m.behindName ++ rest) = .ok (s', rest)

/-- The reader of members, with its state in one piece. -/
def membersFrom (member : σ → List Char → Reader σ) (fuel : Fuel) (s : Bool × σ)
    (text : List Char) : Except Stop (σ × List Char) := readMembers member fuel s.1 s.2 text

/-- Behind the name of a member it is up to the reader of its value. -/
theorem membersFrom_first {body name : List Char} (h : Spells body name) (s : σ) (hgap : IsGap gap)
    (f : Char) (fuel : Fuel) :
    membersFrom member (f :: fuel) (true, s) (gap ++ (quoted body ++ rest)) =
      (do
        let (s, rest) ← member s name rest
        membersFrom member fuel (false, s) rest) := by
  have hkey := readKey_quoted h isGap_nil rest
  rw [List.nil_append] at hkey
  rw [membersFrom, readMembers, skipGap_append hgap, quoted_append, skipGap_cons (by decide),
    ← quoted_append]
  -- It begins with a quotation mark, so that the object does not end here.
  split
  next heq => exact absurd (List.cons.inj heq).1 (by decide)
  next =>
    simp only [if_true, hkey, bind, Except.bind]
    rfl

/-- A further member stands behind a comma. -/
theorem membersFrom_further {body name : List Char} (h : Spells body name) (s : σ)
    (hgap : IsGap gap) (hgap' : IsGap gap') (f : Char) (fuel : Fuel) :
    membersFrom member (f :: fuel) (false, s) (gap ++ ',' :: (gap' ++ (quoted body ++ rest))) =
      (do
        let (s, rest) ← member s name rest
        membersFrom member fuel (false, s) rest) := by
  have hcomma : readComma (',' :: (gap' ++ (quoted body ++ rest))) =
      .ok (gap' ++ (quoted body ++ rest)) := expect_append isGap_nil (by decide)
  rw [membersFrom, readMembers, skipGap_append hgap, skipGap_cons (by decide)]
  split
  next heq => exact absurd (List.cons.inj heq).1 (by decide)
  next =>
    simp only [Bool.false_eq_true, if_false, hcomma, readKey_quoted h hgap' rest, bind, Except.bind]
    rfl

/-- At the bracket the state is what it has come to. -/
theorem membersFrom_close (first : Bool) (s : σ) (hgap : IsGap gap) (f : Char) (fuel : Fuel) :
    membersFrom member (f :: fuel) (first, s) (gap ++ '\x7d' :: rest) =
      .ok (s, '\x7d' :: rest) := by
  rw [membersFrom, readMembers, skipGap_append hgap, skipGap_cons (by decide)]
  rfl

/-- A member that carries the state on is read as that. -/
theorem walks_membersFrom (member : σ → List Char → Reader σ) :
    Walks (membersFrom member) (fun s => (true, s)) (fun s => (false, s))
      (fun m : Named => m.text) (Carries member) where
  first := by
    intro s s' m gap rest h hgap hrest
    refine .of_step (by simp only [Member.text, quoted, List.length_append, List.length_cons]; omega)
      fun f fuel => ?_
    rw [Member.text, List.append_assoc, membersFrom_first m.spells s hgap, h rest hrest]
    rfl
  further := by
    intro s s' m gap gap' rest h hgap hgap' hrest
    refine .of_step (by simp only [List.length_append, List.length_cons]; omega) fun f fuel => ?_
    rw [Member.text, List.append_assoc, membersFrom_further m.spells s hgap hgap', h rest hrest]
    rfl

/-- **The members of an object are read in order**, in any layout, up to the bracket that closes. -/
theorem readMembers_listed {s s' : σ} {ms : List Named} {text : List Char}
    (hms : Path (Carries member) s ms s') (h : Listed (ms.map fun m => m.text) text) :
    readMembers member (fuelFor (text ++ '\x7d' :: rest)) true s (text ++ '\x7d' :: rest) =
      .ok (s', '\x7d' :: rest) := by
  obtain ⟨s₁, hs₁, gap, hgap, hleads⟩ :=
    (walks_membersFrom member).listed hms h (.cons (.inr (.inr rfl)) rest)
  refine hleads.run_eq fun f fuel => ?_
  rcases List.mem_cons.mp hs₁ with rfl | hs₁
  · -- There were no members, or the last one has been read.
    exact membersFrom_close true s' hgap f fuel
  · rw [List.mem_singleton.mp hs₁]
    exact membersFrom_close false s' hgap f fuel

/-- Behind the members the state is completed and the object closed. -/
theorem readMembers_close {α : Type} {s s' : σ} {ms : List Named} {text : List Char} {a : α}
    {complete : σ → List Char → Except Stop α} (hms : Path (Carries member) s ms s')
    (h : Listed (ms.map fun m => m.text) text) (hcomplete : ∀ rest, complete s' rest = .ok a) :
    (do
      let (s', rest) ← readMembers member (fuelFor (text ++ '\x7d' :: rest)) true s
        (text ++ '\x7d' :: rest)
      Except.ok (← complete s' rest, ← closeObject rest)) = .ok (a, rest) := by
  have hclose : closeObject ('\x7d' :: rest) = .ok rest := expect_append isGap_nil (by decide)
  simp only [readMembers_listed hms h, hcomplete, hclose, bind, Except.bind]

/-- An object breaks at the first member that cannot be read. -/
theorem readMembers_error {s s' : σ} {ms : List Named} {text body name : List Char} {stop : Stop}
    (hms : Path (Carries member) s ms s') (h : Precedes (ms.map fun m => m.text) text)
    (hname : Spells body name) (herror : member s' name rest = .error stop) :
    readMembers member (fuelFor (text ++ (quoted body ++ rest))) true s
      (text ++ (quoted body ++ rest)) = .error stop := by
  refine (walks_membersFrom member).precedes hms h (fun gap hgap f fuel => ?_)
    fun gap gap' hgap hgap' f fuel => ?_
  · rw [membersFrom_first hname s' hgap, herror]
    rfl
  · rw [membersFrom_further hname s' hgap hgap', herror]
    rfl

/-! ### Values of members -/

variable {α : Type} {read : Reader α}

/-- A member that was not given before is read. -/
theorem readOnce_none {m : Member} {a : α} (h : Takes read m.value a) (hrest : Ends rest) :
    readOnce none read (m.behindName ++ rest) = .ok (a, rest) := by
  rw [readOnce, readColon_behindName]
  exact h.reads m.isGap_after hrest

/-- A member that was given before is a mismatch, whatever its value. -/
theorem readOnce_some (a : α) (text : List Char) :
    readOnce (some a) read text = .error ⟨.mismatch, text⟩ := rfl

end

end Rollup.Json
