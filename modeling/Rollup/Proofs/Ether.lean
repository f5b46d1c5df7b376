/-
Amounts of ether as they are written.

An amount is written exactly: the text is a numeral, a point and 18 digits, and the number that
these spell, times `10 ^ 18`, is the amount in wei. `Spells` says so. No other text spells the
amount (`spells_iff`), and each such text can be read as a number (`Spells.isLiteral`).
-/
import Mathlib.Data.Rat.Cast.Order
import Mathlib.Tactic.FieldSimp
import Rollup.Ether
import Rollup.Proofs.Decimal.Grammar
import Rollup.Proofs.Text.Numeral

set_option autoImplicit false

namespace Rollup.Ether

open Text (IsDigits IsNumeral decimalValue)

/-- The number that digits in front of a point and behind it spell. -/
def pointedValue (whole fraction : List Char) : ℚ :=
  decimalValue whole + decimalValue fraction / 10 ^ fraction.length

/-- A text that spells an amount of wei in ether: a numeral, a point and all 18 decimals. -/
inductive Spells (wei : Word) : List Char → Prop where
  | mk {whole fraction : List Char} : IsNumeral whole (decimalValue whole) → IsDigits fraction →
    fraction.length = 18 → pointedValue whole fraction * 10 ^ 18 = wei.toNat →
    Spells wei (whole ++ '.' :: fraction)

/-- In wei the number is a whole one. -/
theorem pointedValue_eq_iff {whole fraction : List Char} (h : fraction.length = 18) (n : Nat) :
    pointedValue whole fraction * 10 ^ 18 = n ↔
      decimalValue whole * 10 ^ 18 + decimalValue fraction = n := by
  have hvalue : pointedValue whole fraction * 10 ^ 18 =
      ((decimalValue whole * 10 ^ 18 + decimalValue fraction : Nat) : ℚ) := by
    rw [pointedValue, h]
    rw [add_mul, div_mul_cancel₀ _ (by norm_num), Nat.cast_add, Nat.cast_mul, Nat.cast_pow]
    rfl
  rw [hvalue, Nat.cast_inj]

theorem toList_format (wei : Word) :
    (format wei).toList = Text.numeral 10 (wei.toNat / 10 ^ 18) ++
      '.' :: Text.padFront '0' 18 (Text.numeral 10 (wei.toNat % 10 ^ 18)) := by
  rw [format, String.toList_append, String.toList_append, Text.decimal, String.toList_ofList,
    String.toList_ofList, String.toList_ofList, List.append_assoc]
  rfl

/-- **An amount is spelled by the text that is written for it, and by no other.** -/
theorem spells_iff {wei : Word} {text : List Char} :
    Spells wei text ↔ text = (format wei).toList := by
  have hwhole := Text.isNumeral_numeral (wei.toNat / 10 ^ 18)
  obtain ⟨hdigits, hlength, hvalue⟩ :=
    Text.padFront_numeral (k := 18) (by decide) (Nat.mod_lt wei.toNat (by decide))
  have hsplit := Nat.div_add_mod wei.toNat (10 ^ 18)
  rw [toList_format]
  constructor
  · rintro ⟨hnumeral, hfraction, hcount, hwei⟩
    rw [pointedValue_eq_iff hcount] at hwei
    -- The decimals stay below one, so that they are the remainder.
    have hlt := Text.decimalValue_lt hfraction
    rw [hcount] at hlt
    rw [Text.isNumeral_iff.mp hnumeral]
    congr 2
    · omega
    · refine Text.eq_of_decimalValue_eq hfraction hdigits (hcount.trans hlength.symm) ?_
      rw [hvalue]
      omega
  · rintro rfl
    refine .mk ?_ hdigits hlength ?_
    · rw [hwhole.value]
      exact hwhole
    · rw [pointedValue_eq_iff hlength, hwhole.value, hvalue]
      omega

/-- **What spells an amount can be read as a number.** -/
theorem Spells.isLiteral {wei : Word} {text : List Char} (h : Spells wei text) :
    Decimal.IsLiteral text := by
  obtain ⟨hnumeral, hfraction, -, -⟩ := h
  rename_i whole fraction
  have hdecimal : Decimal.IsDecimal (whole ++ '.' :: (fraction ++ [])) :=
    .pointed (.inl hnumeral.ne_nil) hnumeral.digits hfraction .absent
  rw [List.append_nil] at hdecimal
  exact @Decimal.IsLiteral.decimal [] _ (.inl rfl) hdecimal

end Rollup.Ether
