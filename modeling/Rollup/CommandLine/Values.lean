/-
Values on the command line, and how parameters collect them.

Numbers are decimal and may have a plus sign in front. Paths may not be empty.
-/
import Rollup.CommandLine.Grammar
import Rollup.Decimal.Reading
import Rollup.Ether
import Rollup.Address

set_option autoImplicit false

namespace Rollup.CommandLine

/-! ## Values -/

/-- Reads a value of some type. -/
abbrev ValueReader (α : Type) := String → Except Usage α

/-- Reads a value by a reader that may find none. -/
def ValueReader.ofOption {α : Type} (read : List Char → Option α) : ValueReader α := fun text =>
  match read text.toList with
  | some a => .ok a
  | none => .error .unreadableValue

/-- Reads a number below a limit. -/
def readNatural (limit : Nat) (text : List Char) : Option Nat :=
  let digits := match text with
    | '+' :: rest => rest
    | text => text
  match Text.readDecimal? digits with
  | some n => if n < limit then some n else none
  | none => none

/-- Reads a number below a limit that may have either sign, which leaves zero alone for a
minus. -/
def readSigned (limit : Nat) (text : List Char) : Option Nat :=
  match text with
  | '-' :: digits => if Text.readDecimal? digits = some 0 then some 0 else none
  | text => readNatural limit text

/-- Reads a number that is not zero. -/
def readPositive (limit : Nat) (text : List Char) : Option Nat :=
  (readNatural limit text).filter (· ≠ 0)

/-- A number of 64 bits. -/
def number64 : ValueReader UInt64 := .ofOption fun t => (readNatural (2 ^ 64) t).map UInt64.ofNat

/-- A number of 32 bits. -/
def number32 : ValueReader UInt32 := .ofOption fun t => (readSigned (2 ^ 32) t).map UInt32.ofNat

/-- A number of 64 bits that is not zero. -/
def positive64 : ValueReader UInt64 :=
  .ofOption fun t => (readPositive (2 ^ 64) t).map UInt64.ofNat

/-- A number of 32 bits that is not zero. -/
def positive32 : ValueReader UInt32 :=
  .ofOption fun t => (readPositive (2 ^ 32) t).map UInt32.ofNat

/-- An amount of wei. -/
def wei : ValueReader Word := .ofOption fun t => (Quantity.read 256 t).map (BitVec.ofNat 256)

/-- An amount of ether. -/
def ether : ValueReader Word := fun text =>
  match Ether.read text.toList with
  | .ok w => .ok w
  | .error .notAnAmount => .error .unreadableValue
  | .error .cutCharacter => .error .crash

/-- An address. -/
def address : ValueReader Address := .ofOption fun t => (Address.parse t).toOption

/-- A number with a point or an exponent. -/
def price : ValueReader Float := .ofOption Decimal.read?

/-- Any text. -/
def text : ValueReader String := .ok

/-- The path of a file. -/
def path : ValueReader String := fun text =>
  if text = "" then .error .invalidValue else .ok text

/-! ## Parameters -/

variable {σ α : Type}

/-- A parameter that collects a value. -/
def valueParameter (long : String) (get : σ → Option α) (read : ValueReader α) (put : α → σ → σ) :
    Parameter σ :=
  ⟨long, none, false, .value (fun s => (get s).isSome) fun text s => do .ok (put (← read text) s)⟩

/-- The same parameter with a short name as well. -/
def Parameter.withShort (p : Parameter σ) (short : Char) : Parameter σ :=
  { p with short := some short }

/-- The same parameter, whose values may begin with a hyphen. -/
def Parameter.withHyphens (p : Parameter σ) : Parameter σ := { p with takesHyphens := true }

/-- A parameter that is on or off. -/
def switchParameter (long : String) (get : σ → Bool) (put : σ → σ) : Parameter σ :=
  ⟨long, none, false, .switch get put⟩

/-- The parameter that asks for help. -/
def helpParameter : Parameter σ := ⟨"help", some 'h', false, .help⟩

/-- The parameter that asks for the version. -/
def versionParameter : Parameter σ := ⟨"version", some 'V', false, .version⟩

end Rollup.CommandLine
