/-
Every way of writing a value is read as this value.

The reader of any value keeps incomplete arrays and objects on a stack. Wherever a value may stand,
a text that writes one leads to where the value has been put (`Reads`), with all that lies around it
as it was. Between brackets the values are collected, the last one first. The induction is on the
value.
-/
import Rollup.Proofs.Json.Skipping
import Rollup.Proofs.Json.Writing

set_option autoImplicit false

namespace Rollup.Json

/-! ## Steps -/

section

variable {stack : List Frame} {awaited : Awaited} {p : Progress} {gap text rest : List Char}

/-- A step of reading may be taken behind white space. -/
theorem leads_run {c : Char} (hgap : IsGap gap) (hc : isGap c = false)
    (hlength : rest.length < (c :: text).length)
    (h : (Progress.inside stack awaited).step (c :: text) = .ok (p, rest)) :
    Leads Progress.run (.inside stack awaited) (gap ++ c :: text) p rest := by
  refine .of_step (by rw [List.length_append]; omega) fun f fuel => ?_
  simp only [Progress.run, skipGap_append hgap, skipGap_cons hc, h, bind, Except.bind]

/-- No value begins with the bracket that closes. -/
theorem Frame.closing_ne_of_mem_beginnings {c : Char} (hc : c ∈ beginnings) (stack : List Frame) :
    stack.head?.map Frame.closing ≠ some c := by
  obtain ⟨-, -, hsquare, hcurly⟩ := beginnings_spec c hc
  intro heq
  obtain ⟨f, -, rfl⟩ := Option.map_eq_some_iff.mp heq
  cases f with
  | array => exact hsquare rfl
  | object => exact hcurly rfl

/-- Where a value may stand, what begins one is read as one. -/
theorem step_of_mem_beginnings {c : Char} (hc : c ∈ beginnings) (h : AwaitsValue awaited)
    (text : List Char) :
    (Progress.inside stack awaited).step (c :: text) = Progress.start stack (c :: text) := by
  rcases h with rfl | rfl
  · rfl
  · rw [Progress.step]
    exact if_neg (Frame.closing_ne_of_mem_beginnings hc stack)

/-- Wherever a value may stand, the text is read as the value. -/
structure Reads (text : List Char) (v : Value) : Prop where
  begins : Begins text
  leads : ∀ (stack : List Frame) {awaited : Awaited} {gap rest : List Char},
    AwaitsValue awaited → IsGap gap → Ends rest →
    Leads Progress.run (.inside stack awaited) (gap ++ (text ++ rest)) (.put stack v) rest

/-- A single value as one of all values. -/
def Scalar.value : Scalar → Value
  | .null => .null
  | .bool b => .bool b
  | .number n => .number n.text
  | .string content => .string (String.ofList content)

/-- A value that holds no others is read in one step. -/
theorem reads_scalar {s : Scalar} (h : s.Writes text) : Reads text s.value := by
  refine ⟨h.begins, fun stack {awaited gap rest} hawaited hgap hrest => ?_⟩
  have htake := h.take_append hrest
  obtain ⟨c, hc, tail, rfl⟩ := h.exists_cons
  -- The first character says that it is a value, and that it is neither an array nor an object.
  obtain ⟨hmem, hsquare, hcurly⟩ := scalarBeginnings_spec c hc
  rw [List.cons_append] at htake ⊢
  refine leads_run hgap (beginnings_spec c hmem).1
    (by simp only [List.length_cons, List.length_append]; omega) ?_
  rw [step_of_mem_beginnings hmem hawaited, Progress.start.eq_def]
  split
  next heq => exact absurd (List.cons.inj heq).1 hsquare
  next heq => exact absurd (List.cons.inj heq).1 hcurly
  next =>
    rw [htake]
    cases s <;> rfl

end

/-! ## Arrays -/

section

variable {stack : List Frame} {gap text rest : List Char}

/-- Every item is put in front of those that were read before. -/
theorem walks_array (stack : List Frame) :
    Walks Progress.run (fun items => .inside (.array items :: stack) .element)
      (fun items => .inside (.array items :: stack) .separator) (fun p : List Char × Value => p.1)
      fun items p items' => Reads p.1 p.2 ∧ items' = p.2 :: items where
  first := by
    rintro items _ p gap rest ⟨h, rfl⟩ hgap hrest
    exact h.leads _ (.inr rfl) hgap hrest
  further := by
    rintro items _ p gap gap' rest ⟨h, rfl⟩ hgap hgap' hrest
    exact (leads_run hgap (by decide) (Nat.lt_succ_self _) rfl).trans
      (h.leads _ (.inl rfl) hgap' hrest)

/-- An array is read as the list of its items. -/
theorem reads_array {items : List (List Char × Value)} (hitems : ∀ p ∈ items, Reads p.1 p.2)
    (h : Listed (items.map Prod.fst) text) :
    Reads ('[' :: (text ++ [']'])) (.array (items.map Prod.snd)) := by
  refine ⟨⟨'[', by decide, _, rfl⟩, fun stack {awaited gap rest} hawaited hgap hrest => ?_⟩
  have hpath := Path.foldl (fun items (p : List Char × Value) items' =>
    Reads p.1 p.2 ∧ items' = p.2 :: items) (fun p hp items => ⟨hitems p hp, rfl⟩) []
  rw [List.foldl_flip_cons_eq_append, List.append_nil] at hpath
  obtain ⟨p, hp, gap', hgap', hleads⟩ :=
    (walks_array stack).listed hpath h (.cons (.inr (.inl rfl)) rest)
  have hopening : Leads Progress.run (.inside stack awaited) (gap ++ '[' :: (text ++ ']' :: rest))
      (.inside (.array [] :: stack) .element) (text ++ ']' :: rest) := by
    refine leads_run hgap (by decide) (Nat.lt_succ_self _) ?_
    rw [step_of_mem_beginnings (by decide) hawaited]
    rfl
  -- The bracket turns the items round, whether or not there were any.
  have hclosing : Leads Progress.run p (gap' ++ ']' :: rest)
      (.put stack (.array (items.map Prod.snd))) rest := by
    rw [← List.reverse_reverse (items.map Prod.snd)]
    rcases List.mem_cons.mp hp with rfl | hp
    · exact leads_run hgap' (by decide) (Nat.lt_succ_self _) rfl
    · rw [List.mem_singleton.mp hp]
      exact leads_run hgap' (by decide) (Nat.lt_succ_self _) rfl
  rw [List.cons_append, List.append_assoc]
  exact hopening.trans (hleads.trans hclosing)

end

/-! ## Objects -/

section

variable {stack : List Frame} {gap text rest : List Char}

/-- The members that are complete, the last one first, with the key that was read last. -/
abbrev Collected := List (String × Value) × String

/-- A further member. -/
def Collected.push (c : Collected) (m : Named × Value) : Collected :=
  ((String.ofList m.1.name, m.2) :: c.1, String.ofList m.1.name)

/-- Members are collected from the last to the first. -/
theorem Collected.foldl_push (members : List (Named × Value)) (c : Collected) :
    (members.foldl push c).1 =
      (members.map fun m => (String.ofList m.1.name, m.2)).reverse ++ c.1 := by
  induction members generalizing c with
  | nil => rfl
  | cons m members ih =>
    rw [List.foldl_cons, ih, List.map_cons, List.reverse_cons, List.append_assoc]
    rfl

/-- An object is closed by its own bracket. -/
theorem closing_object_ne {c : Char} (h : '\x7d' ≠ c) {members : List (String × Value)}
    {key : String} : (Frame.object members key :: stack).head?.map Frame.closing ≠ some c :=
  fun heq => h (Option.some.inj heq)

/-- A member leads from where its key is awaited to where its value has been put. -/
theorem leads_member {m : Named} {v : Value} {c : Collected} {awaited : Awaited}
    (h : Reads m.value v) (hawaited : awaited = .member ∨ awaited = .key) (hgap : IsGap gap)
    (hrest : Ends rest) :
    Leads Progress.run (.inside (.object c.1 c.2 :: stack) awaited) (gap ++ (m.text ++ rest))
      (.inside (.object (c.push (m, v)).1 (c.push (m, v)).2 :: stack) .separator) rest := by
  have hkey : readKey (m.text ++ rest) = .ok (m.name, m.behindName ++ rest) := by
    rw [Member.text, List.append_assoc]
    exact readKey_quoted m.spells isGap_nil _
  have hstep : (Progress.inside (.object c.1 c.2 :: stack) awaited).step (m.text ++ rest) =
      .ok (.inside (.object c.1 (String.ofList m.name) :: stack) .colon, m.behindName ++ rest) := by
    rw [Member.text, List.append_assoc, quoted_append] at hkey ⊢
    rcases hawaited with rfl | rfl
    · rw [Progress.step, if_neg (closing_object_ne (by decide)), Progress.startMember, hkey]
      rfl
    · rw [Progress.step, Progress.startMember, hkey]
      rfl
  rw [Member.text, List.append_assoc, quoted_append] at hstep ⊢
  -- Over the name, then over the colon, and then over the value.
  refine (leads_run hgap (by decide)
    (by simp only [List.length_cons, List.length_append]; omega) hstep).trans ?_
  have hcolon : readColon (':' :: (m.after ++ (m.value ++ rest))) =
      .ok (m.after ++ (m.value ++ rest)) := expect_append isGap_nil (by decide)
  rw [Member.behindName, List.append_assoc, List.cons_append, List.append_assoc]
  refine (leads_run m.isGap_before (by decide) (Nat.lt_succ_self _) ?_).trans
    (h.leads (.object c.1 (String.ofList m.name) :: stack) (.inl rfl) m.isGap_after hrest)
  rw [Progress.step, hcolon]
  rfl

/-- Every member is put in front of those that were read before. -/
theorem walks_object (stack : List Frame) :
    Walks Progress.run (fun c : Collected => .inside (.object c.1 c.2 :: stack) .member)
      (fun c => .inside (.object c.1 c.2 :: stack) .separator) (fun m : Named × Value => m.1.text)
      fun c m c' => Reads m.1.value m.2 ∧ c' = c.push m where
  first := by
    rintro c _ m gap rest ⟨h, rfl⟩ hgap hrest
    exact leads_member h (.inl rfl) hgap hrest
  further := by
    rintro c _ m gap gap' rest ⟨h, rfl⟩ hgap hgap' hrest
    -- A further member stands behind a comma, which takes a step of its own.
    have hcomma : readComma (',' :: (gap' ++ (m.1.text ++ rest))) =
        .ok (gap' ++ (m.1.text ++ rest)) := expect_append isGap_nil (by decide)
    refine (leads_run hgap (by decide) (Nat.lt_succ_self _) ?_).trans
      (leads_member h (.inr rfl) hgap' hrest)
    rw [Progress.step, if_neg (closing_object_ne (by decide)), hcomma]
    rfl

/-- An object is read as the list of its members. -/
theorem reads_object {members : List (Named × Value)}
    (hmembers : ∀ m ∈ members, Reads m.1.value m.2)
    (h : Listed (members.map fun m => m.1.text) text) :
    Reads ('\x7b' :: (text ++ ['\x7d']))
      (.object (members.map fun m => (String.ofList m.1.name, m.2))) := by
  refine ⟨⟨'\x7b', by decide, _, rfl⟩, fun stack {awaited gap rest} hawaited hgap hrest => ?_⟩
  have hpath := Path.foldl (fun (c : Collected) (m : Named × Value) c' =>
    Reads m.1.value m.2 ∧ c' = c.push m) (fun m hm c => ⟨hmembers m hm, rfl⟩) ([], "")
  have hcollected := Collected.foldl_push members ([], "")
  rw [List.append_nil] at hcollected
  obtain ⟨p, hp, gap', hgap', hleads⟩ :=
    (walks_object stack).listed hpath h (.cons (.inr (.inr rfl)) rest)
  have hopening : Leads Progress.run (.inside stack awaited)
      (gap ++ '\x7b' :: (text ++ '\x7d' :: rest)) (.inside (.object [] "" :: stack) .member)
      (text ++ '\x7d' :: rest) := by
    refine leads_run hgap (by decide) (Nat.lt_succ_self _) ?_
    rw [step_of_mem_beginnings (by decide) hawaited]
    rfl
  -- The bracket turns the members round, whether or not there were any.
  have hclosing : Leads Progress.run p (gap' ++ '\x7d' :: rest)
      (.put stack (.object (members.map fun m => (String.ofList m.1.name, m.2)))) rest := by
    rw [← List.reverse_reverse (members.map _), ← hcollected]
    rcases List.mem_cons.mp hp with rfl | hp
    · exact leads_run hgap' (by decide) (Nat.lt_succ_self _) rfl
    · rw [List.mem_singleton.mp hp]
      exact leads_run hgap' (by decide) (Nat.lt_succ_self _) rfl
  rw [List.cons_append, List.append_assoc]
  exact hopening.trans (hleads.trans hclosing)

end

/-! ## All values -/

/-- **What writes a value is read as this value**, by induction on how the text is put together. -/
theorem Value.Writes.reads {v : Value} {text : List Char} (h : v.Writes text) : Reads text v := by
  induction h with
  | null => exact reads_scalar .null
  | bool b =>
    cases b with
    | true => exact reads_scalar .true
    | false => exact reads_scalar .false
  | number hnumber =>
    obtain ⟨n, hn, hfits, rfl⟩ := hnumber
    exact reads_scalar (.number hn hfits)
  | @string content body hbody =>
    have hscalar := reads_scalar (.string hbody)
    rwa [Scalar.value, String.ofList_toList] at hscalar
  | array _ _ hvs hlisted ih => exact hvs ▸ reads_array ih hlisted
  | object _ _ hmembers hlisted ih => exact hmembers ▸ reads_object ih hlisted

/-- What is written for a value is read as the value. -/
theorem takes_readValue {v : Value} {text : List Char} (h : v.Writes text) :
    Takes readValue text v :=
  ⟨h.reads.begins, fun hgap hrest =>
    (h.reads.leads [] (.inl rfl) hgap hrest).run_eq fun _ _ => rfl⟩

/-- **Reading undoes writing**, with white space around what is written. -/
theorem parse_of_writes {v : Value} {text gap gap' : List Char} (h : v.Writes text)
    (hgap : IsGap gap) (hgap' : IsGap gap') : parse (gap ++ (text ++ gap')) = .ok v :=
  (takes_readValue h).readText hgap hgap'

end Rollup.Json
