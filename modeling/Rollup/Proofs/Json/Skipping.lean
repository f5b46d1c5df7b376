/-
Values that nobody asked for are skipped.

What is skipped has to be a value, of any form and to any depth, and then it is taken off the text
to its last character. Brackets are kept on a stack. A value inside brackets leads from where one is
awaited to where a comma or the closing bracket is, with the same stack, and so does a member of an
object; arrays and objects differ in nothing else. The induction is on the value.
-/
import Rollup.Proofs.Json.Sequence

set_option autoImplicit false

namespace Rollup.Json

/-! ## Steps -/

/-- Where skipping goes on behind a value. -/
def behindValue (stack : List Bracket) : Option (List Bracket × Awaited) :=
  if stack.isEmpty then none else some (stack, .separator)

/-- Skipping, from where something is awaited or where all is complete. -/
def skipFrom (fuel : Fuel) : Option (List Bracket × Awaited) → List Char →
    Except Stop (List Char)
  | none, text => .ok text
  | some (stack, awaited), text => skip fuel stack awaited text

section

variable {stack : List Bracket} {awaited : Awaited} {s : Option (List Bracket × Awaited)}
  {gap text rest : List Char}

/-- A step of skipping may be taken behind white space. -/
theorem leads_skipFrom {c : Char} (hgap : IsGap gap) (hc : isGap c = false)
    (hlength : rest.length < (c :: text).length)
    (h : skipStep stack awaited (c :: text) = .ok (s, rest)) :
    Leads skipFrom (some (stack, awaited)) (gap ++ c :: text) s rest := by
  refine .of_step (by rw [List.length_append]; omega) fun f fuel => ?_
  simp only [skipFrom, skip, skipGap_append hgap, skipGap_cons hc, h, bind, Except.bind]
  rcases s with _ | ⟨stack', awaited'⟩ <;> rfl

/-- No value begins with the bracket that closes. -/
theorem closing_ne_of_mem_beginnings {c : Char} (hc : c ∈ beginnings) (stack : List Bracket) :
    stack.head?.map Bracket.closing ≠ some c := by
  obtain ⟨-, -, hsquare, hcurly⟩ := beginnings_spec c hc
  intro heq
  obtain ⟨b, -, rfl⟩ := Option.map_eq_some_iff.mp heq
  cases b with
  | square => exact hsquare rfl
  | curly => exact hcurly rfl

/-- What is awaited where a value may stand. -/
def AwaitsValue (awaited : Awaited) : Prop := awaited = .value ∨ awaited = .element

/-- Where a value may stand, what begins one is skipped as one. -/
theorem skipStep_of_mem_beginnings {c : Char} (hc : c ∈ beginnings) (h : AwaitsValue awaited)
    (text : List Char) : skipStep stack awaited (c :: text) = skipBeginning stack (c :: text) := by
  rcases h with rfl | rfl
  · rfl
  · rw [skipStep]
    exact if_neg (closing_ne_of_mem_beginnings hc stack)

/-- Wherever a value may stand, the text is skipped as one. -/
structure Passes (text : List Char) : Prop where
  begins : Begins text
  leads : ∀ (stack : List Bracket) {awaited : Awaited} {gap rest : List Char},
    AwaitsValue awaited → IsGap gap → Ends rest →
    Leads skipFrom (some (stack, awaited)) (gap ++ (text ++ rest)) (behindValue stack) rest

/-- A value that holds no others is skipped in one step. -/
theorem passes_of_take {c : Char} (hc : c ∈ scalarBeginnings)
    (h : ∀ rest, Ends rest → ∃ v, Scalar.take .skipped ((c :: text) ++ rest) = .ok (v, rest)) :
    Passes (c :: text) := by
  obtain ⟨hmem, hsquare, hcurly⟩ := scalarBeginnings_spec c hc
  refine ⟨⟨c, hmem, text, rfl⟩, fun stack {awaited gap rest} hawaited hgap hrest => ?_⟩
  obtain ⟨v, hv⟩ := h rest hrest
  rw [List.cons_append] at hv ⊢
  refine leads_skipFrom hgap (beginnings_spec c hmem).1
    (by simp only [List.length_cons, List.length_append]; omega) ?_
  -- It is neither a list nor an object.
  rw [skipStep_of_mem_beginnings hmem hawaited, skipBeginning.eq_def]
  split
  next heq => exact absurd (List.cons.inj heq).1 hsquare
  next heq => exact absurd (List.cons.inj heq).1 hcurly
  next =>
    rw [hv]
    rfl

end

/-! ## Brackets -/

namespace Bracket

/-- The bracket that opens. -/
def opening : Bracket → Char
  | .square => '['
  | .curly => '\x7b'

/-- What is awaited behind the bracket that opens. -/
def first : Bracket → Awaited
  | .square => .element
  | .curly => .member

/-- What is awaited behind a comma. -/
def next : Bracket → Awaited
  | .square => .value
  | .curly => .key

variable {b : Bracket} {stack : List Bracket} {gap gap' text rest : List Char}

/-- The bracket that opens is put on the stack. -/
theorem leads_opening {awaited : Awaited} (h : AwaitsValue awaited) (hgap : IsGap gap) :
    Leads skipFrom (some (stack, awaited)) (gap ++ b.opening :: rest)
      (some (b :: stack, b.first)) rest := by
  cases b with
  | square =>
    refine leads_skipFrom hgap (by decide) (Nat.lt_succ_self _) ?_
    rw [skipStep_of_mem_beginnings (by decide) h]
    rfl
  | curly =>
    refine leads_skipFrom hgap (by decide) (Nat.lt_succ_self _) ?_
    rw [skipStep_of_mem_beginnings (by decide) h]
    rfl

/-- Behind a comma a further piece is awaited. -/
theorem leads_comma (hgap : IsGap gap) :
    Leads skipFrom (some (b :: stack, .separator)) (gap ++ ',' :: rest)
      (some (b :: stack, b.next)) rest := by
  cases b <;> exact leads_skipFrom hgap (by decide) (Nat.lt_succ_self _) rfl

/-- The bracket that closes is taken off the stack. -/
theorem leads_closing {awaited : Awaited} (h : awaited = b.first ∨ awaited = .separator)
    (hgap : IsGap gap) :
    Leads skipFrom (some (b :: stack, awaited)) (gap ++ b.closing :: rest) (behindValue stack)
      rest := by
  have hafter : Awaited.afterClosing (b :: stack) = behindValue stack := by cases stack <;> rfl
  have hstep : skipStep (b :: stack) awaited (b.closing :: rest) =
      .ok (Awaited.afterClosing (b :: stack), rest) := by
    rcases h with rfl | rfl <;> cases b <;> rfl
  rw [hafter] at hstep
  exact leads_skipFrom hgap (by cases b <;> decide) (Nat.lt_succ_self _) hstep

/-- The piece is skipped as one of those that stand between the brackets. -/
structure Holds (b : Bracket) (piece : List Char) : Prop where
  leads : ∀ {stack : List Bracket} {awaited : Awaited} {gap rest : List Char},
    awaited = b.first ∨ awaited = b.next → IsGap gap → Ends rest →
    Leads skipFrom (some (b :: stack, awaited)) (gap ++ (piece ++ rest))
      (some (b :: stack, .separator)) rest

/-- Pieces between brackets leave the stack as it is. -/
theorem walks_skipFrom (b : Bracket) (stack : List Bracket) :
    Walks skipFrom (fun _ : Unit => some (b :: stack, b.first))
      (fun _ => some (b :: stack, .separator)) (fun piece => piece)
      fun _ piece _ => b.Holds piece where
  first h hgap hrest := h.leads (.inl rfl) hgap hrest
  further h hgap hgap' hrest := (leads_comma hgap).trans (h.leads (.inr rfl) hgap' hrest)

/-- **Pieces between brackets are skipped with these.** -/
theorem passes {pieces : List (List Char)} (hpieces : ∀ p ∈ pieces, b.Holds p)
    (h : Listed pieces text) : Passes (b.opening :: (text ++ [b.closing])) := by
  refine ⟨⟨b.opening, by cases b <;> decide, _, rfl⟩,
    fun stack {awaited gap rest} hawaited hgap hrest => ?_⟩
  have hpath : Path (fun (_ : Unit) piece (_ : Unit) => b.Holds piece) () pieces () :=
    Path.foldl _ (f := fun _ _ => ()) (fun p hp _ => hpieces p hp) ()
  have hends : Ends (b.closing :: rest) := .cons (by cases b <;> decide) rest
  rw [← List.map_id' pieces] at h
  -- Opening, pieces and closing are three runs that are joined.
  obtain ⟨s, hs, gap', hgap', hleads⟩ := (walks_skipFrom b stack).listed hpath h hends
  rw [List.cons_append, List.append_assoc, List.singleton_append]
  refine (leads_opening hawaited hgap).trans (hleads.trans ?_)
  rcases List.mem_cons.mp hs with rfl | hs
  · exact leads_closing (.inl rfl) hgap'
  · rw [List.mem_singleton.mp hs]
    exact leads_closing (.inr rfl) hgap'

/-- What stands in an array is a value. -/
theorem holds_square (h : Passes text) : square.Holds text :=
  ⟨fun hawaited hgap hrest => h.leads _ hawaited.symm hgap hrest⟩

/-- What stands in an object is a name with a value. -/
theorem holds_curly {m : Member} (hname : IsBody m.spelling) (h : Passes m.value) :
    curly.Holds m.text := by
  refine ⟨fun {stack awaited gap rest} hawaited hgap hrest => ?_⟩
  obtain ⟨content, hcontent⟩ := exists_takeString_of_isBody hname (m.behindName ++ rest)
  -- A name is awaited behind the bracket and behind a comma alike.
  have hkey : skipStep (curly :: stack) awaited (m.text ++ rest) =
      .ok (some (curly :: stack, .colon), m.behindName ++ rest) := by
    rw [Member.text, List.append_assoc, quoted_append]
    rcases hawaited with rfl | rfl
    · simp only [skipStep, first, skipKey, hcontent]
      rfl
    · simp only [skipStep, next, skipKey, hcontent]
      rfl
  rw [Member.text, List.append_assoc, quoted_append] at hkey ⊢
  refine (leads_skipFrom hgap (by decide)
    (by simp only [List.length_cons, List.length_append]; omega) hkey).trans ?_
  rw [Member.behindName, List.append_assoc, List.cons_append, List.append_assoc]
  exact (leads_skipFrom m.isGap_before (by decide) (Nat.lt_succ_self _) rfl).trans
    (h.leads _ (.inl rfl) m.isGap_after hrest)

end Bracket

/-! ## Values -/

/-- The three words are skipped. -/
theorem passes_of_mem_words {text : List Char} (h : text ∈ words) : Passes text := by
  simp only [words, List.mem_cons, List.not_mem_nil, or_false] at h
  obtain rfl | rfl | rfl := h
  · exact passes_of_take (by decide) fun rest _ => ⟨.null, rfl⟩
  · exact passes_of_take (by decide) fun rest _ => ⟨.bool true, rfl⟩
  · exact passes_of_take (by decide) fun rest _ => ⟨.bool false, rfl⟩

/-- A number is skipped, however long it is. -/
theorem passes_number {n : Number} (h : n.Sound) : Passes n.text := by
  have htake : ∀ rest, Ends rest → ∃ v, Scalar.take .skipped (n.text ++ rest) = .ok (v, rest) :=
    fun rest hrest => ⟨_, Scalar.take_number h nofun hrest⟩
  obtain ⟨c, text, hcons, hc⟩ := h.exists_cons
  rw [hcons] at htake ⊢
  refine passes_of_take ?_ htake
  rcases hc with rfl | hc
  · decide
  · exact mem_scalarBeginnings_of_isDecimal hc

/-- A text is skipped, even one with half a surrogate pair. -/
theorem passes_quoted {body : List Char} (h : IsBody body) : Passes (quoted body) := by
  refine passes_of_take (by decide) fun rest _ => ?_
  obtain ⟨content, hcontent⟩ := exists_takeString_of_isBody h rest
  exact ⟨_, Scalar.take_quoted hcontent⟩

/-- **Every value is skipped**, by induction on how it is put together. -/
theorem WellFormed.passes {text : List Char} (h : WellFormed text) : Passes text := by
  induction h with
  | word hword => exact passes_of_mem_words hword
  | number hn => exact passes_number hn
  | string hbody => exact passes_quoted hbody
  | array _ hlisted ih => exact Bracket.square.passes (fun p hp => Bracket.holds_square (ih p hp)) hlisted
  | object hnames _ hlisted ih =>
    refine Bracket.curly.passes (fun p hp => ?_) hlisted
    obtain ⟨m, hm, rfl⟩ := List.mem_map.mp hp
    exact Bracket.holds_curly (hnames m hm) (ih m hm)

/-- The value of a member that nobody asked for is skipped to its last character. -/
theorem skipMember_behindName {m : Member} (h : WellFormed m.value) {rest : List Char}
    (hrest : Ends rest) : skipMember (m.behindName ++ rest) = .ok rest := by
  have hskip : skipValue (m.after ++ (m.value ++ rest)) = .ok rest :=
    (h.passes.leads [] (.inl rfl) m.isGap_after hrest).run_eq fun _ _ => rfl
  rw [skipMember, readColon_behindName]
  exact hskip

end Rollup.Json
