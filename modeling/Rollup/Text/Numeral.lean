/-
Numerals: natural numbers written in a radix of two to sixteen.

`digits` gives the digits of a number, `numeral` writes them as characters in
lower case, and `digit?` reads a single character, in either case. `ofDigits` gives
the value of digits, and `value` the same for very many of them.
-/

set_option autoImplicit false

namespace Rollup.Text

/-- The digits of `n` in a radix, the most significant first. Zero has the one digit 0. -/
def digits (radix n : Nat) : List Nat :=
  if _h : radix < 2 ∨ n < radix then [n] else digits radix (n / radix) ++ [n % radix]
termination_by n
decreasing_by
  have : 2 ≤ radix := by omega
  exact Nat.div_lt_self (by omega) (by omega)

/-- The character of one digit: `0` to `9`, then `a` to `f`. -/
def digitChar (d : Nat) : Char :=
  if d < 10 then Char.ofNat (0x30 + d) else Char.ofNat (0x61 + (d - 10))

/-- The value of a digit character, whatever its case; letters count from ten. -/
def digit? (c : Char) : Option Nat :=
  let n := c.toNat
  if 0x30 ≤ n ∧ n ≤ 0x39 then some (n - 0x30)
  else if 0x61 ≤ n ∧ n ≤ 0x7A then some (n - 0x61 + 10)
  else if 0x41 ≤ n ∧ n ≤ 0x5A then some (n - 0x41 + 10)
  else none

/-- Whether a character is one of `0` to `9`. -/
def isDecimal (c : Char) : Bool := 0x30 ≤ c.toNat && c.toNat ≤ 0x39

/-- The value of digits in a radix, the most significant first. -/
def ofDigits (radix : Nat) (ds : List Nat) : Nat := ds.foldl (fun n d => radix * n + d) 0

/-- Joins neighbours among digits, the least significant first, to digits of the squared radix. -/
def joinPairs (radix : Nat) : List Nat → List Nat
  | a :: b :: rest => (a + radix * b) :: joinPairs radix rest
  | rest => rest

/-- The value of digits, the least significant first, joined in pairs until one is left. Each turn
halves their number, which is fuel enough. -/
def joinAll : (fuel : Nat) → (radix : Nat) → List Nat → Nat
  | _, _, [] => 0
  | _, _, [d] => d
  | 0, radix, ds => ds.foldr (fun d n => d + radix * n) 0
  | fuel + 1, radix, ds => joinAll fuel (radix * radix) (joinPairs radix ds)

/-- The value of digits in a radix, the most significant first, as `ofDigits` gives it. Numbers of
one size are multiplied with each other, so that it is found soon even for very many digits. -/
def value (radix : Nat) (ds : List Nat) : Nat := joinAll ds.length radix ds.reverse

/-- The numeral of `n` in a radix. -/
def numeral (radix n : Nat) : List Char := (digits radix n).map digitChar

/-- The decimal numeral of `n`. -/
def decimal (n : Nat) : String := String.ofList (numeral 10 n)

/-- The hexadecimal numeral of `n`, in lower case. -/
def hexadecimal (n : Nat) : String := String.ofList (numeral 16 n)

/-- The decimal numeral of an integer, with a sign when it is negative. -/
def signedDecimal : Int → String
  | .ofNat n => decimal n
  | .negSucc n => "-" ++ decimal (n + 1)

/-- Reads a text that consists of decimal digits only, and of at least one. -/
def readDecimal? (s : List Char) : Option Nat :=
  if s.isEmpty || !s.all isDecimal then none
  else some (value 10 (s.map fun c => c.toNat - 0x30))

/-- Puts `fill` in front of a text until it is `width` characters long. -/
def padFront (fill : Char) (width : Nat) (s : List Char) : List Char :=
  List.replicate (width - s.length) fill ++ s

/-- Puts `fill` behind a text until it is `width` characters long. -/
def padBack (fill : Char) (width : Nat) (s : List Char) : List Char :=
  s ++ List.replicate (width - s.length) fill

theorem foldr_joinPairs (radix : Nat) (ds : List Nat) :
    (joinPairs radix ds).foldr (fun d n => d + radix * radix * n) 0 =
      ds.foldr (fun d n => d + radix * n) 0 := by
  fun_induction joinPairs radix ds with
  | case1 a b rest ih =>
    rw [List.foldr_cons, ih]
    simp [Nat.mul_add, Nat.mul_assoc, Nat.add_assoc]
  | case2 rest h =>
    match rest, h with
    | [], _ => rfl
    | [d], _ => simp
    | a :: b :: rest, h => exact absurd rfl (h a b rest)

theorem joinAll_eq_foldr (fuel radix : Nat) (ds : List Nat) :
    joinAll fuel radix ds = ds.foldr (fun d n => d + radix * n) 0 := by
  fun_induction joinAll fuel radix ds with
  | case1 => rfl
  | case2 => simp
  | case3 => rfl
  | case4 radix ds fuel _ _ ih => rw [ih, foldr_joinPairs]

/-- Joining in pairs gives the value of the digits. -/
theorem value_eq_ofDigits (radix : Nat) (ds : List Nat) : value radix ds = ofDigits radix ds := by
  simp [value, joinAll_eq_foldr, ofDigits, Nat.add_comm]

@[simp] theorem ofDigits_append_singleton (radix d : Nat) (ds : List Nat) :
    ofDigits radix (ds ++ [d]) = radix * ofDigits radix ds + d := by
  simp [ofDigits]

/-- The digits of a number spell that number. -/
@[simp] theorem ofDigits_digits (radix n : Nat) : ofDigits radix (digits radix n) = n := by
  induction n using Nat.strongRecOn with
  | ind n ih =>
    rw [digits]
    split
    · simp [ofDigits]
    · next h =>
      rw [ofDigits_append_singleton, ih (n / radix) (Nat.div_lt_self (by omega) (by omega))]
      exact Nat.div_add_mod n radix

end Rollup.Text
