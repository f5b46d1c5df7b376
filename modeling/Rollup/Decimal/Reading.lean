/-
Reading decimals as double precision numbers.

A number is an optional sign, digits with at most one point among them and at
least one digit, and an optional exponent behind `e` or `E`, which has an
optional sign and at least one digit. An exponent that has reached `2 ^ 16` does not
grow any more: the digits behind do not count. The words `inf`, `infinity` and `nan`, in
any case and with an optional sign, are read too. Nothing may stand before or
behind. The result is the nearest double, and infinity from where on the nearest
one would be too large.
-/
import Rollup.Decimal.Double
import Rollup.Text.Numeral

set_option autoImplicit false

namespace Rollup.Decimal

/-- A decimal as it is written: `digits * 10 ^ exponent`. -/
structure Written where
  /-- All digits, without the point. -/
  digits : List Char
  /-- The power of ten of the last digit. -/
  exponent : Int

/-- An optional sign and what follows it. -/
def splitSign : List Char → Bool × List Char
  | '-' :: rest => (true, rest)
  | '+' :: rest => (false, rest)
  | text => (false, text)

/-- Takes one more digit into an exponent. From `2 ^ 16` on further digits do not count. -/
def pushExponent (e : Nat) (c : Char) : Nat :=
  if e < 2 ^ 16 then 10 * e + (c.toNat - 0x30) else e

/-- Reads what stands behind the digits of a decimal: nothing, or an exponent. -/
def readExponent? : List Char → Option Int
  | [] => some 0
  | c :: rest =>
    if c = 'e' ∨ c = 'E' then
      let (negative, digits) := splitSign rest
      if digits.isEmpty || !digits.all Text.isDecimal then none
      else
        let n := digits.foldl pushExponent 0
        some (if negative then -(n : Int) else n)
    else none

/-- Reads a decimal without its sign. -/
def readUnsigned? (text : List Char) : Option Written :=
  let whole := text.takeWhile Text.isDecimal
  match text.dropWhile Text.isDecimal with
  | '.' :: rest =>
    let fraction := rest.takeWhile Text.isDecimal
    -- A point may stand in front of all digits or behind them, but not alone.
    if whole.isEmpty && fraction.isEmpty then none
    else (readExponent? (rest.dropWhile Text.isDecimal)).map fun e =>
      ⟨whole ++ fraction, e - fraction.length⟩
  | rest =>
    if whole.isEmpty then none else (readExponent? rest).map fun e => ⟨whole, e⟩

/-- The magnitude nearest to a decimal. Where the place of the leading digit already decides, the
power of ten is not computed. -/
def Written.magnitude (w : Written) : Magnitude :=
  let significant := w.digits.dropWhile (· = '0')
  let leading := w.exponent + significant.length
  -- Beyond these exponents a double is zero or infinite, and no power needs to be computed.
  if significant.isEmpty ∨ leading < -400 then .finite 0 leastExponent
  else if 400 < leading then .infinite
  else
    let n := Text.value 10 (significant.map fun c => c.toNat - 0x30)
    if 0 ≤ w.exponent then nearest (n * 10 ^ w.exponent.toNat) 1
    else nearest n (10 ^ (-w.exponent).toNat)

/-- Reads a number. -/
def read? (text : List Char) : Option Float :=
  let (negative, body) := splitSign text
  let word := String.ofList (body.map Char.toLower)
  if word = "inf" ∨ word = "infinity" then some (ofParts negative .infinite)
  else if word = "nan" then some (ofParts false .undefined)
  else (readUnsigned? body).map fun w => ofParts negative w.magnitude

end Rollup.Decimal
