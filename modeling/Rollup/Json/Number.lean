/-
Numbers in a JSON text.

A number that is wanted becomes a double unless it is written as a whole number,
and it must not be too large for one. The conversion is the plain one. The significand
is collected as a whole number of 64 bits, as long as another digit fits; the digits behind count
as zeros. Then the double next to it is multiplied by the double next to a power
of ten, and the product is rounded once more. A number close to the greatest
double can overflow on the way.
-/
import Rollup.Decimal.Double
import Rollup.Json.Fault
import Rollup.Text.Numeral

set_option autoImplicit false

namespace Rollup.Json

/-- The exponent of a number as it is written. -/
structure Exponent where
  /-- The letter in front. -/
  mark : Char
  sign : Option Char
  digits : List Char
  deriving DecidableEq, Repr

/-- A number as it is written. -/
structure Number where
  negative : Bool
  whole : List Char
  /-- The digits behind the point, if there is one. -/
  fraction : Option (List Char)
  exponent : Option Exponent
  deriving DecidableEq, Repr

namespace Number

/-- A number, written again as it was. -/
def text (n : Number) : List Char :=
  (if n.negative then ['-'] else []) ++ n.whole ++
    (match n.fraction with
      | some digits => '.' :: digits
      | none => []) ++
    (match n.exponent with
      | some e => e.mark :: (e.sign.toList ++ e.digits)
      | none => [])

/-- The whole number that is written, if it is one. A zero with a sign counts as a fraction. -/
def whole? (n : Number) : Option Int :=
  match n.fraction, n.exponent with
  | none, none =>
    match Text.readDecimal? n.whole with
    | some m => if n.negative then (if m = 0 then none else some (-m)) else some m
    | none => none
  | _, _ => none

/-! ## The size of a number -/

/-- Takes digits into a significand as long as it stays below `2 ^ 64`; returns it with the digits
that are left. -/
def collect (significand : Nat) : List Char → Nat × List Char
  | [] => (significand, [])
  | c :: rest =>
    let next := 10 * significand + (c.toNat - 0x30)
    if next < 2 ^ 64 then collect next rest else (significand, c :: rest)

/-- The significand of a number and its power of ten, the exponent that is written left aside. -/
def significand (n : Number) : Nat × Int :=
  let (value, surplus) := collect 0 n.whole
  let fraction := n.fraction.getD []
  let (value, left) := collect value fraction
  (value, surplus.length - (fraction.length - left.length : Nat))

/-- Reads the digits of an exponent as long as they make up less than `2 ^ 31`; returns the value,
or the digits behind the one that was too much. -/
def exponentValue (value : Nat) : List Char → Except (List Char) Nat
  | [] => .ok value
  | c :: rest =>
    let next := 10 * value + (c.toNat - 0x30)
    if next < 2 ^ 31 then exponentValue next rest else .error rest

/-- Whether the product of a significand and a power of ten, computed in doubles, is infinite. -/
def overflows (significand : Nat) (exponent : Int) : Bool :=
  if significand = 0 ∨ exponent < 0 then false
  else if 308 < exponent then true
  else
    (Decimal.nearest significand 1).times (Decimal.nearest (10 ^ exponent.toNat) 1) = .infinite

/-- The digits of a number that are not even looked at, if it is too large for a double. -/
def surplus? (n : Number) : Option (List Char) :=
  let (value, exponent) := n.significand
  match n.exponent with
  | none => if overflows value exponent then some [] else none
  | some written =>
    let negative := written.sign = some '-'
    match exponentValue 0 written.digits with
    | .ok e =>
      if overflows value (exponent + (if negative then -(e : Int) else e)) then some [] else none
    -- An exponent that is itself too large makes the number zero or too large.
    | .error surplus => if negative ∨ value = 0 then none else some surplus

/-! ## Reading -/

/-- Stops where a digit is missing at the end of a text. To one who skips that is as bad as a
wrong character. -/
def missingDigit {α : Type} : Attention → Except Stop α
  | .wanted => endsEarly
  | .skipped => malformed []

/-- Takes the exponent of a number off a text, if there is one. -/
def takeExponent (a : Attention) : Reader (Option Exponent)
  | [] => .ok (none, [])
  | c :: rest =>
    if c = 'e' ∨ c = 'E' then
      let (sign, body) := match rest with
        | '-' :: body => (some '-', body)
        | '+' :: body => (some '+', body)
        | body => (none, body)
      match body with
      | [] => missingDigit a
      | d :: behind =>
        if Text.isDecimal d then
          .ok (some ⟨c, sign, body.takeWhile Text.isDecimal⟩, body.dropWhile Text.isDecimal)
        -- The fault is behind what was looked at.
        else malformed (dropBytes 1 (d :: behind))
    else .ok (none, c :: rest)

/-- Takes the point of a number and the digits behind it off a text, if there is one. -/
def takeFraction (a : Attention) : Reader (Option (List Char))
  | '.' :: rest =>
    match rest.takeWhile Text.isDecimal with
    | [] => if rest.isEmpty then missingDigit a else malformed rest
    | digits => .ok (some digits, rest.dropWhile Text.isDecimal)
  | text => .ok (none, text)

/-- Takes the digits in front of the point off a text. A zero stands alone. -/
def takeWhole (a : Attention) : Reader (List Char)
  | [] => missingDigit a
  | '0' :: rest =>
    match rest with
    | [] => .ok (['0'], rest)
    -- No zero stands in front of other digits.
    | c :: _ => if Text.isDecimal c then malformed rest else .ok (['0'], rest)
  | c :: rest =>
    if Text.isDecimal c then
      .ok (c :: rest.takeWhile Text.isDecimal, rest.dropWhile Text.isDecimal)
    else malformed (dropBytes 1 (c :: rest))

/-- Takes a number off the front of a text that begins with one. -/
def take (a : Attention) : Reader Number := fun text => do
  let (negative, body) := match text with
    | '-' :: body => (true, body)
    | body => (false, body)
  let (whole, rest) ← takeWhole a body
  let (fraction, rest) ← takeFraction a rest
  let (exponent, rest) ← takeExponent a rest
  let number : Number := ⟨negative, whole, fraction, exponent⟩
  match a, number.surplus? with
  -- A number that is skipped may be too large.
  | .wanted, some surplus => malformed (surplus ++ rest)
  | _, _ => .ok (number, rest)

end Number

end Rollup.Json
