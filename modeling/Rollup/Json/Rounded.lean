/-
JSON values as they are kept in 64 bits for each number.

A whole number that fits into 64 bits, with or without a sign, stays as it is.
Any other number becomes a double and is written again in the shortest way, with
at least one decimal or with an exponent. It is computed as it is when its size is
judged: the double next to the significand, times or divided by the double next to
a power of ten.
-/
import Rollup.Decimal.Shortest
import Rollup.Json.Value

set_option autoImplicit false

namespace Rollup.Json

/-- The greatest power of ten that is a double. -/
def greatestPower : Nat := 308

/-- A magnitude divided by a power of ten, in steps of which each is rounded. -/
def lowered (m : Decimal.Magnitude) (power : Nat) : Decimal.Magnitude :=
  if power ≤ greatestPower ∨ m = .finite 0 Decimal.leastExponent then
    if greatestPower < power then m else m.over (Decimal.nearest (10 ^ power) 1)
  else lowered (m.over (Decimal.nearest (10 ^ greatestPower) 1)) (power - greatestPower)
termination_by power
decreasing_by
  have : greatestPower = 308 := rfl
  omega

namespace Number

/-- The exponent that is written. -/
def writtenExponent (n : Number) : Int :=
  match n.exponent with
  | none => 0
  | some e =>
    let size := match exponentValue 0 e.digits with
      | .ok size => size
      | .error _ => 2 ^ 31
    if e.sign = some '-' then -(size : Int) else size

/-- The magnitude of a number in doubles. -/
def magnitude (n : Number) : Decimal.Magnitude :=
  let (significand, exponent) := n.significand
  let exponent := exponent + n.writtenExponent
  let m := Decimal.nearest significand 1
  if exponent < 0 then lowered m (-exponent).toNat
  else if significand = 0 then m
  else if greatestPower < exponent.toNat then .infinite
  else m.times (Decimal.nearest (10 ^ exponent.toNat) 1)

/-- Whether a number is kept as it is. -/
def isKept (n : Number) : Bool :=
  match n.whole? with
  | some m => -(2 ^ 63) ≤ m && m < 2 ^ 64
  | none => false

/-- How doubles are written: an exponent below `10 ^ -5` and from `10 ^ 16` on. -/
def layout : Decimal.Layout := ⟨true, some (-5, 16)⟩

/-- A number in 64 bits. -/
def rounded (n : Number) : List Char :=
  if n.isKept then n.text
  else (layout.text (Decimal.ofParts n.negative n.magnitude)).toList

end Number

/-- The text of a number in 64 bits. -/
def roundedText (text : List Char) : List Char :=
  match Number.take .skipped text with
  | .ok (n, _) => n.rounded
  | .error _ => text

mutual

/-- A value with its numbers in 64 bits. -/
def Value.rounded : Value → Value
  | .number text => .number (roundedText text)
  | .array items => .array (roundedItems items)
  | .object members => .object (roundedMembers members)
  | v => v

/-- Items with their numbers in 64 bits. -/
def roundedItems : List Value → List Value
  | [] => []
  | v :: rest => v.rounded :: roundedItems rest

/-- Members with their numbers in 64 bits. -/
def roundedMembers : List (String × Value) → List (String × Value)
  | [] => []
  | (key, v) :: rest => (key, v.rounded) :: roundedMembers rest

end

end Rollup.Json
