/-
Which texts are JSON values, in any way of writing them.

The grammar says how a text is put together, and leaves everything free that a writer may choose:
white space, the spelling of the characters of a string, and the layout of arrays and objects. A
string that is wanted spells its characters (`Spells`), so that surrogates come in pairs; one that
is only skipped has to look like a string (`IsBody`), and a value that is skipped has to be
`WellFormed`.

What stands between brackets are pieces with commas between them (`Listed`). A text may also break
off in front of a piece (`Precedes`): so much of an array or of an object is read before anything
can be wrong with the rest.
-/
import Rollup.Json.Value
import Rollup.Proofs.Bytes.Hex
import Rollup.Proofs.Text.Numeral

set_option autoImplicit false

namespace Rollup.Json

open Text (IsDigits IsNumeral)

/-! ## White space -/

/-- A text of white space only. -/
def IsGap (text : List Char) : Prop := ∀ c ∈ text, isGap c = true

theorem isGap_nil : IsGap [] := nofun

theorem skipGap_append {gap : List Char} (h : IsGap gap) (text : List Char) :
    skipGap (gap ++ text) = skipGap text := List.dropWhile_append_of_pos h

theorem skipGap_cons {c : Char} (h : isGap c = false) (text : List Char) :
    skipGap (c :: text) = c :: text := by
  rw [skipGap, List.dropWhile_cons_of_neg (by rw [h]; exact Bool.false_ne_true)]

theorem isEmpty_skipGap {gap : List Char} (h : IsGap gap) : (skipGap gap).isEmpty = true := by
  rw [← List.append_nil gap, skipGap_append h]
  rfl

/-! ## Strings -/

/-- The characters that stand behind a backslash for one character, with that character. -/
def letters : List (Char × Char) :=
  [(quoteMark, quoteMark), ('\\', '\\'), ('/', '/'), ('b', Char.ofNat 0x08),
    ('f', Char.ofNat 0x0C), ('n', '\n'), ('r', '\r'), ('t', '\t')]

/-- A character that may stand in a string as it is. -/
structure IsPlain (c : Char) : Prop where
  ne_quote : c ≠ quoteMark
  ne_backslash : c ≠ '\\'
  not_control : 0x20 ≤ c.toNat

/-- Four hexadecimal digits that spell a code unit. -/
def IsUnit (digits : List Char) (unit : Nat) : Prop :=
  ∃ ds, List.Forall₂ Hex.IsDigit digits ds ∧ ds.length = 4 ∧ Text.ofDigits 16 ds = unit

/-- The text between quotation marks spells the characters of a string. -/
inductive Spells : (body content : List Char) → Prop where
  | nil : Spells [] []
  | plain {c : Char} {body content : List Char} : IsPlain c → Spells body content →
    Spells (c :: body) (c :: content)
  | letter {l c : Char} {body content : List Char} : (l, c) ∈ letters → Spells body content →
    Spells ('\\' :: l :: body) (c :: content)
  | unit {digits : List Char} {c : Char} {body content : List Char} : IsUnit digits c.toNat →
    Spells body content → Spells ('\\' :: 'u' :: (digits ++ body)) (c :: content)
  /-- A character beyond the code units, as a pair of surrogates. -/
  | pair {first second : List Char} {high low : Nat} {c : Char} {body content : List Char} :
    IsUnit first high → IsUnit second low → isHigh high = true → isLow low = true →
    c.toNat = 0x10000 + 0x400 * (high - 0xD800) + (low - 0xDC00) → Spells body content →
    Spells ('\\' :: 'u' :: (first ++ '\\' :: 'u' :: (second ++ body))) (c :: content)

/-- The text between quotation marks looks like that of a string. -/
inductive IsBody : List Char → Prop where
  | nil : IsBody []
  | plain {c : Char} {body : List Char} : IsPlain c → IsBody body → IsBody (c :: body)
  | letter {l c : Char} {body : List Char} : (l, c) ∈ letters → IsBody body →
    IsBody ('\\' :: l :: body)
  | unit {digits : List Char} {unit : Nat} {body : List Char} : IsUnit digits unit → IsBody body →
    IsBody ('\\' :: 'u' :: (digits ++ body))

/-- A text between quotation marks. -/
def quoted (body : List Char) : List Char := quoteMark :: (body ++ [quoteMark])

theorem quoted_append (body rest : List Char) :
    quoted body ++ rest = quoteMark :: (body ++ quoteMark :: rest) := by
  rw [quoted, List.cons_append, List.append_assoc]
  rfl

/-! ## Numbers -/

/-- The exponent has a mark, and digits behind it. -/
structure Exponent.Sound (e : Exponent) : Prop where
  mark : e.mark = 'e' ∨ e.mark = 'E'
  sign : ∀ c ∈ e.sign, c = '+' ∨ c = '-'
  ne_nil : e.digits ≠ []
  digits : IsDigits e.digits

/-- The parts of a number are as JSON has them: digits without a zero in front, and digits behind a
point and behind an exponent. -/
structure Number.Sound (n : Number) : Prop where
  whole : ∃ k, IsNumeral n.whole k
  fraction : ∀ digits ∈ n.fraction, digits ≠ [] ∧ IsDigits digits
  exponent : ∀ e ∈ n.exponent, e.Sound

/-! ## Layout -/

/-- Pieces that follow another one, each behind a comma. -/
inductive Continues : (pieces : List (List Char)) → List Char → Prop where
  | nil : Continues [] []
  | cons {gap gap' piece text : List Char} {pieces : List (List Char)} : IsGap gap → IsGap gap' →
    Continues pieces text → Continues (piece :: pieces) (gap ++ ',' :: (gap' ++ (piece ++ text)))

/-- Pieces with commas between them, as they stand between brackets. -/
inductive Listed : (pieces : List (List Char)) → List Char → Prop where
  | nil {gap : List Char} : IsGap gap → Listed [] gap
  | cons {gap gap' piece text : List Char} {pieces : List (List Char)} : IsGap gap →
    Continues pieces text → IsGap gap' → Listed (piece :: pieces) (gap ++ (piece ++ (text ++ gap')))

/-- Pieces behind a bracket, up to where a further one begins. -/
inductive Precedes : (pieces : List (List Char)) → List Char → Prop where
  | nil {gap : List Char} : IsGap gap → Precedes [] gap
  | cons {gap gap' gap'' piece text : List Char} {pieces : List (List Char)} : IsGap gap →
    Continues pieces text → IsGap gap' → IsGap gap'' →
    Precedes (piece :: pieces) (gap ++ (piece ++ (text ++ (gap' ++ ',' :: gap''))))

/-- A member of an object as it is written. -/
structure Member where
  /-- What stands between the quotation marks of the name. -/
  spelling : List Char
  /-- The white space in front of the colon. -/
  before : List Char
  /-- The white space behind it. -/
  after : List Char
  value : List Char
  isGap_before : IsGap before
  isGap_after : IsGap after

namespace Member

/-- What stands behind the name of a member. -/
def behindName (m : Member) : List Char := m.before ++ ':' :: (m.after ++ m.value)

/-- The text of a member. -/
def text (m : Member) : List Char := quoted m.spelling ++ m.behindName

end Member

/-- A member whose name spells a string. -/
structure Named extends Member where
  name : List Char
  spells : Spells spelling name

/-! ## Values -/

/-- The words that are values. -/
def words : List (List Char) := ["null".toList, "true".toList, "false".toList]

/-- A text that is a JSON value. -/
inductive WellFormed : List Char → Prop where
  | word {text : List Char} : text ∈ words → WellFormed text
  | number {n : Number} : n.Sound → WellFormed n.text
  | string {body : List Char} : IsBody body → WellFormed (quoted body)
  | array {pieces : List (List Char)} {text : List Char} : (∀ p ∈ pieces, WellFormed p) →
    Listed pieces text → WellFormed ('[' :: (text ++ [']']))
  | object {members : List Member} {text : List Char} : (∀ m ∈ members, IsBody m.spelling) →
    (∀ m ∈ members, WellFormed m.value) → Listed (members.map Member.text) text →
    WellFormed ('\x7b' :: (text ++ ['\x7d']))

end Rollup.Json
