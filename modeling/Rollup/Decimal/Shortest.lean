/-
The shortest decimal that reads back as a given double.

All real numbers that round to a number form an interval around it, whose ends
belong to it when the significand is even. For one digit, two digits and so on
the two neighbours of the number on that decimal grid are tried: the first grid
with a neighbour inside the interval wins, and of two such neighbours the nearer
one, a tie going up. Seventeen digits are always enough.

`positional` and `scientific` lay the digits out, and `plain` and `marked` are the
two ways in which this library prints a number: without any exponent and without
a point for whole numbers, and with at least one decimal and an exponent for very
large and very small numbers.
-/
import Rollup.Decimal.Double
import Rollup.Text.Numeral

set_option autoImplicit false

namespace Rollup.Decimal

/-- The decimal `digits * 10 ^ exponent`. -/
structure Scientific where
  /-- The digits, as a number. -/
  digits : Nat
  /-- The power of ten of the last digit. -/
  exponent : Int
  deriving DecidableEq, Repr

/-- A positive number on a common scale with its interval: all four are in units of
`unit`, which a power of two and a power of ten make up. -/
structure Interval where
  /-- The number itself. -/
  value : Nat
  /-- The lower end. -/
  low : Nat
  /-- The upper end. -/
  high : Nat
  /-- Whether the ends belong to the interval. -/
  closed : Bool

/-- Whether a point lies in the interval. -/
def Interval.holds (i : Interval) (point : Nat) : Bool :=
  if i.closed then i.low ≤ point && point ≤ i.high else i.low < point && point < i.high

/-- The interval of `m * 2 ^ e`, in quarters of the distance to the next number. Below a power
of two the numbers are twice as dense. -/
def interval (m : Nat) (e : Int) (scale : Nat) : Interval :=
  let below := if m = 2 ^ 52 ∧ leastExponent < e then 1 else 2
  ⟨4 * m * scale, (4 * m - below) * scale, (4 * m + 2) * scale, m % 2 = 0⟩

/-- How many digits stand before the point of `num / den`; not positive when the first digit
stands behind it. -/
def pointPosition (num den : Nat) : Int :=
  let guess : Int := ((Text.digits 10 num).length : Int) - (Text.digits 10 den).length
  let atLeast := if 0 ≤ guess then den * 10 ^ guess.toNat ≤ num
    else den ≤ num * 10 ^ (-guess).toNat
  if atLeast then guess + 1 else guess

/-- The decimal that `digits` of at most `count` places makes, or that it is carried over to. -/
def carried (count digits : Nat) (exponent : Int) : Scientific :=
  if digits = 10 ^ count then ⟨10 ^ (count - 1), exponent + 1⟩ else ⟨digits, exponent⟩

/-- The decimal of exactly `count` digits that lies in the interval of `m * 2 ^ e` and is nearest
to it, if there is one. `position` is the place of the point. -/
def onGrid (m : Nat) (e : Int) (position : Int) (count : Nat) : Option Scientific :=
  let exponent := position - count
  let quarter := e - 2
  let scale := 2 ^ quarter.toNat * 10 ^ (-exponent).toNat
  let step := 2 ^ (-quarter).toNat * 10 ^ exponent.toNat
  let i := interval m e scale
  let down := i.value / step
  let up := down + 1
  match i.holds (down * step), i.holds (up * step) with
  | true, true =>
    -- Of two candidates the nearer one is taken, and the upper one if they are as near.
    if i.value - down * step < up * step - i.value then some ⟨down, exponent⟩
    else some (carried count up exponent)
  | true, false => some ⟨down, exponent⟩
  | false, true => some (carried count up exponent)
  | false, false => none

/-- The shortest decimal that reads back as `m * 2 ^ e`, for a positive `m`. -/
def shortest (m : Nat) (e : Int) : Scientific :=
  let position := pointPosition (m * 2 ^ e.toNat) (2 ^ (-e).toNat)
  ((List.range 17).findSome? fun n => onGrid m e position (n + 1)).getD ⟨m, e⟩

/-- Digits with a point and as many zeros as it takes to have no exponent. -/
def positional (digits : List Char) (exponent : Int) : List Char :=
  if 0 ≤ exponent then digits ++ List.replicate exponent.toNat '0'
  else
    let places := (-exponent).toNat
    let padded := Text.padFront '0' (places + 1) digits
    padded.take (padded.length - places) ++ '.' :: padded.drop (padded.length - places)

/-- Digits with a point behind the first one, and an exponent. -/
def scientific (digits : List Char) (exponent : Int) : List Char :=
  let point := match digits with
    | first :: next :: rest => first :: '.' :: next :: rest
    | few => few
  point ++ 'e' :: (Text.signedDecimal (exponent + (digits.length - 1 : Nat))).toList

/-- How a layout shows the numbers that it does not print positionally, and the whole ones. -/
structure Layout where
  /-- Whether a whole number keeps one decimal. -/
  decimalPoint : Bool
  /-- The powers of ten between which a number is printed positionally, if there is a limit:
  a number below the first or not below the second has an exponent. -/
  range : Option (Int × Int)

/-- Neither points nor exponents where digits alone do. -/
def plain : Layout := ⟨false, none⟩

/-- Always a point or an exponent: an exponent below `10 ^ -4` and from `10 ^ 16` on. -/
def marked : Layout := ⟨true, some (-4, 16)⟩

/-- The text of a positive decimal. -/
def Layout.body (layout : Layout) (s : Scientific) : List Char :=
  let digits := Text.numeral 10 s.digits
  let leading := s.exponent + (digits.length - 1 : Nat)
  let outside := match layout.range with
    | none => false
    | some (low, high) => leading < low || high ≤ leading
  if outside then scientific digits s.exponent
  else
    let text := positional digits s.exponent
    if layout.decimalPoint && 0 ≤ s.exponent then text ++ ['.', '0'] else text

/-- The text of a number. -/
def Layout.text (layout : Layout) (x : Float) : String :=
  let sign (negative : Bool) := if negative then "-" else ""
  match parts x with
  | (_, .undefined) => "NaN"
  | (negative, .infinite) => sign negative ++ "inf"
  | (negative, .finite 0 _) => sign negative ++ if layout.decimalPoint then "0.0" else "0"
  | (negative, .finite m e) => sign negative ++ String.ofList (layout.body (shortest m e))

end Rollup.Decimal
