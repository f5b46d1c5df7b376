/-
Double precision numbers, taken apart and put together exactly.

A finite number is a sign, a significand below `2 ^ 53` and a power of two; zero
has the significand zero. `parts` takes a number apart, and `nearest` finds the
magnitude nearest to a fraction of natural numbers, a tie going to the even
significand. All of it is integer arithmetic, so nothing is rounded twice.
-/
import Rollup.Powers

set_option autoImplicit false

namespace Rollup.Decimal

/-- A number that is not negative: `significand * 2 ^ exponent`, or one of the special values. -/
inductive Magnitude where
  /-- `significand * 2 ^ exponent`. -/
  | finite (significand : Nat) (exponent : Int)
  /-- Beyond every finite number. -/
  | infinite
  /-- No number at all. -/
  | undefined
  deriving DecidableEq, Repr

/-- The exponent of the smallest positive number. -/
def leastExponent : Int := -1074

/-- The greatest exponent of a finite number. -/
def greatestExponent : Int := 971

/-- The sign bit and the magnitude of a number. -/
def parts (x : Float) : Bool × Magnitude :=
  let bits := x.toBits.toNat
  let biased := bits / 2 ^ 52 % 2 ^ 11
  let fraction := bits % 2 ^ 52
  let negative := bits / 2 ^ 63 = 1
  if biased = 2 ^ 11 - 1 then (negative, if fraction = 0 then .infinite else .undefined)
  else if biased = 0 then (negative, .finite fraction leastExponent)
  else (negative, .finite (2 ^ 52 + fraction) (leastExponent + (biased - 1 : Nat)))

/-- The number with a sign bit and a magnitude. -/
def ofParts (negative : Bool) (magnitude : Magnitude) : Float :=
  let sign := if negative then 2 ^ 63 else 0
  let body := match magnitude with
    | .infinite => (2 ^ 11 - 1) * 2 ^ 52
    | .undefined => (2 ^ 11 - 1) * 2 ^ 52 + 2 ^ 51
    | .finite m e =>
      if m < 2 ^ 52 then m else ((e - leastExponent).toNat + 1) * 2 ^ 52 + (m - 2 ^ 52)
  Float.ofBits (UInt64.ofNat (sign + body))

/-- The quotient rounded to the nearest integer, a tie to the even one. -/
def roundEven (num den : Nat) : Nat :=
  let q := num / den
  let r := num % den
  if 2 * r < den then q
  else if den < 2 * r then q + 1
  else if q % 2 = 0 then q else q + 1

/-- The fraction `num / den` divided by `2 ^ e`. -/
def scaleDown (num den : Nat) (e : Int) : Nat × Nat :=
  if 0 ≤ e then (num, den * 2 ^ e.toNat) else (num * 2 ^ (-e).toNat, den)

/-- The exponent of the highest power of two that is at most `num / den`. -/
def log2Ratio (num den : Nat) : Int :=
  let guess : Int := (num.log2 : Int) - den.log2
  let (a, b) := scaleDown num den guess
  if b ≤ a then guess else guess - 1

/-- The magnitude nearest to `num / den`, for a positive `den`. -/
def nearest (num den : Nat) : Magnitude :=
  if num = 0 then .finite 0 leastExponent
  else
    let e := max leastExponent (log2Ratio num den - 52)
    let (a, b) := scaleDown num den e
    let m := roundEven a b
    let (m, e) := if m = 2 ^ 53 then (2 ^ 52, e + 1) else (m, e)
    if greatestExponent < e then .infinite else .finite m e

/-- The magnitude nearest to a product. -/
def Magnitude.times : Magnitude → Magnitude → Magnitude
  | .undefined, _ | _, .undefined => .undefined
  | .infinite, .infinite => .infinite
  | .infinite, .finite m _ | .finite m _, .infinite => if m = 0 then .undefined else .infinite
  | .finite m a, .finite n b =>
    let (num, den) := scaleDown (m * n) 1 (-(a + b))
    nearest num den

/-- The magnitude nearest to a quotient. -/
def Magnitude.over : Magnitude → Magnitude → Magnitude
  | .undefined, _ | _, .undefined | .infinite, .infinite => .undefined
  | .infinite, .finite _ _ => .infinite
  | .finite _ _, .infinite => .finite 0 leastExponent
  | .finite m a, .finite n b =>
    if n = 0 then (if m = 0 then .undefined else .infinite)
    else
      let (num, den) := scaleDown m n (b - a)
      nearest num den

end Rollup.Decimal
