/-
What is written for a value is a way of writing it.

A text `Writes` a value if it is one of the ways to put it: white space, the spelling of strings and
the layout are free, while numbers stand as they are and members in their order. The text in one
line and the text that is laid out are two of these ways, for every value whose numbers are numbers
that a reader takes (`Value.Sound`). The induction is on the value, and both texts come from the
same statement on pieces with a comma between them.
-/
import Rollup.Proofs.Json.Scalar

set_option autoImplicit false

namespace Rollup.Json

/-! ## Strings -/

/-- A character has a letter, or is written as its number, or stands as it is. -/
theorem escape_spec (c : Char) : (∃ l, (l, c) ∈ letters ∧ escape c = ['\\', l]) ∨
    (c.toNat < 0x20 ∧ escape c = controlEscape c.toNat) ∨ (IsPlain c ∧ escape c = [c]) := by
  -- The control characters with a letter are known by their numbers.
  have hletter {l d : Char} (hl : (l, d) ∈ letters) (hd : c.toNat = d.toNat) : (l, c) ∈ letters := by
    rwa [Char.toNat_inj.mp hd]
  rw [escape]
  split_ifs with hquote hbackslash hb ht hn hf hr hcontrol
  · exact .inl ⟨quoteMark, hletter (by decide) (congrArg Char.toNat hquote), rfl⟩
  · exact .inl ⟨'\\', hletter (by decide) (congrArg Char.toNat hbackslash), rfl⟩
  · exact .inl ⟨'b', hletter (d := Char.ofNat 0x08) (by decide) hb, rfl⟩
  · exact .inl ⟨'t', hletter (d := '\t') (by decide) ht, rfl⟩
  · exact .inl ⟨'n', hletter (d := '\n') (by decide) hn, rfl⟩
  · exact .inl ⟨'f', hletter (d := Char.ofNat 0x0C) (by decide) hf, rfl⟩
  · exact .inl ⟨'r', hletter (d := '\r') (by decide) hr, rfl⟩
  · exact .inr (.inl ⟨hcontrol, rfl⟩)
  · exact .inr (.inr ⟨⟨hquote, hbackslash, Nat.not_lt.mp hcontrol⟩, rfl⟩)

/-- Two zeros and two digits spell a control character. -/
theorem isUnit_control {n : Nat} (h : n < 0x20) :
    IsUnit ['0', '0', Text.digitChar (n / 16), Text.digitChar (n % 16)] n := by
  refine ⟨[0, 0, n / 16, n % 16], ?_, rfl, ?_⟩
  · exact .cons (by decide) (.cons (by decide) (.cons (Hex.isDigit_digitChar _ (by omega))
      (.cons (Hex.isDigit_digitChar _ (by omega)) .nil)))
  · simp only [Text.ofDigits, List.foldl_cons, List.foldl_nil]
    omega

/-- Every character is written so that it is read again. -/
theorem spells_escape (c : Char) {body content : List Char} (h : Spells body content) :
    Spells (escape c ++ body) (c :: content) := by
  rcases escape_spec c with ⟨l, hl, hc⟩ | ⟨hcontrol, hc⟩ | ⟨hplain, hc⟩
  · rw [hc]
    exact .letter hl h
  · rw [hc]
    exact .unit (isUnit_control hcontrol) h
  · rw [hc]
    exact .plain hplain h

/-- The text of a string between the quotation marks. -/
def escaped (content : List Char) : List Char := content.flatMap escape

/-- So is every text. -/
theorem spells_escaped (content : List Char) : Spells (escaped content) content := by
  induction content with
  | nil => exact .nil
  | cons c content ih => exact spells_escape c ih

/-! ## Pieces with a comma between them -/

/-- Commas with the same white space behind each part pieces. -/
theorem continues_flatMap {gap : List Char} (hgap : IsGap gap) (pieces : List (List Char)) :
    Continues pieces (pieces.flatMap fun piece => ',' :: (gap ++ piece)) := by
  induction pieces with
  | nil => exact .nil
  | cons piece pieces ih =>
    rw [List.flatMap_cons, List.cons_append, List.append_assoc]
    exact .cons isGap_nil hgap ih

/-- Pieces with commas in between are one piece and then commas with the others. -/
theorem flatten_intersperse (gap piece : List Char) (pieces : List (List Char)) :
    (((piece :: pieces).map (gap ++ ·)).intersperse [',']).flatten =
      gap ++ (piece ++ pieces.flatMap fun piece => ',' :: (gap ++ piece)) := by
  induction pieces generalizing piece with
  | nil => simp
  | cons next pieces ih =>
    rw [List.map_cons, List.map_cons, List.intersperse_cons_cons, List.flatten_cons,
      List.flatten_cons, ← List.map_cons, ih next]
    simp

/-- With white space in front of each piece and behind the last one. -/
theorem listed_intersperse {gap gap' : List Char} (hgap : IsGap gap) (hgap' : IsGap gap')
    (pieces : List (List Char)) :
    Listed pieces (((pieces.map (gap ++ ·)).intersperse [',']).flatten ++ gap') := by
  cases pieces with
  | nil => exact .nil hgap'
  | cons piece pieces =>
    rw [flatten_intersperse, List.append_assoc, List.append_assoc]
    exact .cons hgap (continues_flatMap hgap pieces) hgap'

/-- Pieces on one line are a list between the brackets. -/
theorem exists_enclose (left right : Char) (pieces : List (List Char)) :
    ∃ text, enclose left right pieces = left :: (text ++ [right]) ∧ Listed pieces text := by
  have hlisted := listed_intersperse isGap_nil isGap_nil pieces
  simp only [List.nil_append, List.map_id', List.append_nil] at hlisted
  exact ⟨_, rfl, hlisted⟩

/-- A blank is white space. -/
theorem isGap_blank : IsGap [' '] := by
  intro c hc
  rw [List.mem_singleton.mp hc]
  rfl

/-- A line feed with blanks behind it is white space. -/
theorem isGap_indent (depth : Nat) : IsGap (indent depth) := by
  intro c hc
  rcases List.mem_cons.mp hc with rfl | hc
  · rfl
  · rw [List.eq_of_mem_replicate hc]
    rfl

/-- Pieces on lines of their own are a list between the brackets. -/
theorem exists_encloseLines (left right : Char) (depth : Nat) (pieces : List (List Char)) :
    ∃ text, encloseLines left right depth pieces = left :: (text ++ [right]) ∧
      Listed pieces text := by
  cases pieces with
  | nil => exact ⟨[], rfl, .nil isGap_nil⟩
  | cons piece pieces =>
    exact ⟨_, rfl, listed_intersperse (isGap_indent (depth + 1)) (isGap_indent depth) _⟩

/-! ## Ways of writing a value -/

/-- The text is a number that a reader takes. -/
def IsNumber (text : List Char) : Prop := ∃ n : Number, n.Sound ∧ n.surplus? = none ∧ n.text = text

/-- The text is a way of writing the value. -/
inductive Value.Writes : Value → List Char → Prop where
  | null : Writes .null "null".toList
  | bool (b : Bool) : Writes (.bool b) (boolText b)
  | number {text : List Char} : IsNumber text → Writes (.number text) text
  | string {content : String} {body : List Char} : Spells body content.toList →
    Writes (.string content) (quoted body)
  | array {vs : List Value} (items : List (List Char × Value)) {text : List Char} :
    (∀ p ∈ items, Writes p.2 p.1) → items.map Prod.snd = vs →
    Listed (items.map Prod.fst) text → Writes (.array vs) ('[' :: (text ++ [']']))
  | object {members : List (String × Value)} (items : List (Named × Value)) {text : List Char} :
    (∀ p ∈ items, Writes p.2 p.1.value) →
    (items.map fun p => (String.ofList p.1.name, p.2)) = members →
    Listed (items.map fun p => p.1.text) text →
    Writes (.object members) ('\x7b' :: (text ++ ['\x7d']))

/-- The numbers of a value are numbers that a reader takes. -/
inductive Value.Sound : Value → Prop where
  | null : Sound .null
  | bool (b : Bool) : Sound (.bool b)
  | number {text : List Char} : IsNumber text → Sound (.number text)
  | string (content : String) : Sound (.string content)
  | array {items : List Value} : (∀ v ∈ items, Sound v) → Sound (.array items)
  | object {members : List (String × Value)} : (∀ m ∈ members, Sound m.2) → Sound (.object members)

/-- The member with a key and the text of its value, with white space behind the colon only. -/
def Named.ofKey (key : String) {gap : List Char} (hgap : IsGap gap) (value : List Char) : Named where
  spelling := escaped key.toList
  before := []
  after := gap
  value := value
  isGap_before := isGap_nil
  isGap_after := hgap
  name := key.toList
  spells := spells_escaped key.toList

theorem Named.text_ofKey (key : String) {gap : List Char} (hgap : IsGap gap) (value : List Char) :
    (Named.ofKey key hgap value).text = quote key.toList ++ ':' :: (gap ++ value) := rfl

namespace Value

/-- What writes a string is in quotation marks. -/
theorem Writes.string_inv {content : String} {text : List Char} (h : Writes (.string content) text) :
    ∃ body, Spells body content.toList ∧ text = quoted body := by
  cases h with
  | string hbody => exact ⟨_, hbody, rfl⟩

/-- What writes a number is its text. -/
theorem Writes.number_inv {digits text : List Char} (h : Writes (.number digits) text) :
    text = digits := by
  cases h with
  | number => rfl

/-- What writes a truth value is its word. -/
theorem Writes.bool_inv {b : Bool} {text : List Char} (h : Writes (.bool b) text) :
    text = boolText b := by
  cases h with
  | bool => rfl

/-- The items of a list are written one by one. -/
theorem compactItems_eq (items : List Value) : compactItems items = items.map Value.compact := by
  induction items with
  | nil => rfl
  | cons v items ih => rw [compactItems, ih, List.map_cons]

/-- The members of an object are written one by one. -/
theorem compactMembers_eq (members : List (String × Value)) : compactMembers members =
    members.map fun m => (Named.ofKey m.1 isGap_nil m.2.compact).text := by
  induction members with
  | nil => rfl
  | cons m members ih => rw [compactMembers, ih, List.map_cons, Named.text_ofKey, List.nil_append]

/-- The items of a list are written at the same depth. -/
theorem prettyItems_eq (depth : Nat) (items : List Value) :
    prettyItems depth items = items.map fun v => v.pretty depth := by
  induction items with
  | nil => rfl
  | cons v items ih => rw [prettyItems, ih, List.map_cons]

/-- The members of an object are written at the same depth. -/
theorem prettyMembers_eq (depth : Nat) (members : List (String × Value)) :
    prettyMembers depth members =
      members.map fun m => (Named.ofKey m.1 isGap_blank (m.2.pretty depth)).text := by
  induction members with
  | nil => rfl
  | cons m members ih => rw [prettyMembers, ih, List.map_cons, Named.text_ofKey]; rfl

section

variable {text : List Char} (write : Value → List Char)

/-- Items that are written one by one, in any layout. -/
theorem writes_array {items : List Value} (hitems : ∀ v ∈ items, Writes v (write v))
    (h : Listed (items.map write) text) : Writes (.array items) ('[' :: (text ++ [']'])) := by
  refine .array (items.map fun v => (write v, v)) (fun p hp => ?_) ?_ ?_
  · obtain ⟨v, hv, rfl⟩ := List.mem_map.mp hp
    exact hitems v hv
  · rw [List.map_map]
    exact List.map_id' items
  · rwa [List.map_map]

/-- Members that are written one by one, in any layout. -/
theorem writes_object {members : List (String × Value)} {gap : List Char} (hgap : IsGap gap)
    (hmembers : ∀ m ∈ members, Writes m.2 (write m.2))
    (h : Listed (members.map fun m => (Named.ofKey m.1 hgap (write m.2)).text) text) :
    Writes (.object members) ('\x7b' :: (text ++ ['\x7d'])) := by
  refine .object (members.map fun m => (Named.ofKey m.1 hgap (write m.2), m.2))
    (fun p hp => ?_) ?_ ?_
  · obtain ⟨m, hm, rfl⟩ := List.mem_map.mp hp
    exact hmembers m hm
  · rw [List.map_map]
    refine (List.map_congr_left fun m _ => ?_).trans (List.map_id' members)
    exact Prod.ext (String.ofList_toList) rfl
  · rwa [List.map_map]

end

/-- **The text in one line is a way of writing the value.** -/
theorem Sound.writes_compact {v : Value} (h : v.Sound) : Writes v v.compact := by
  -- The induction is on the value: what holds of its parts holds of the list of them.
  induction h with
  | null => exact .null
  | bool b => cases b <;> exact .bool _
  | number htext => exact .number htext
  | string content => exact .string (spells_escaped content.toList)
  | @array items _ ih =>
    obtain ⟨text, htext, hlisted⟩ := exists_enclose '[' ']' (compactItems items)
    rw [compact, htext]
    rw [compactItems_eq] at hlisted
    exact writes_array compact ih hlisted
  | @object members _ ih =>
    obtain ⟨text, htext, hlisted⟩ := exists_enclose '\x7b' '\x7d' (compactMembers members)
    rw [compact, htext]
    rw [compactMembers_eq] at hlisted
    exact writes_object compact isGap_nil ih hlisted

/-- **The text that is laid out is a way of writing the value**, at every depth. -/
theorem Sound.writes_pretty {v : Value} (h : v.Sound) (depth : Nat) :
    Writes v (v.pretty depth) := by
  induction h generalizing depth with
  | null => exact .null
  | bool b => cases b <;> exact .bool _
  | number htext => exact .number htext
  | string content => exact .string (spells_escaped content.toList)
  | @array items _ ih =>
    obtain ⟨text, htext, hlisted⟩ :=
      exists_encloseLines '[' ']' depth (prettyItems (depth + 1) items)
    rw [pretty, htext]
    rw [prettyItems_eq] at hlisted
    -- The parts are written one level deeper, so the claim is for every depth.
    exact writes_array (pretty (depth + 1)) (fun v hv => ih v hv _) hlisted
  | @object members _ ih =>
    obtain ⟨text, htext, hlisted⟩ :=
      exists_encloseLines '\x7b' '\x7d' depth (prettyMembers (depth + 1) members)
    rw [pretty, htext]
    rw [prettyMembers_eq] at hlisted
    exact writes_object (pretty (depth + 1)) isGap_blank (fun m hm => ih m hm _) hlisted

end Value

end Rollup.Json
