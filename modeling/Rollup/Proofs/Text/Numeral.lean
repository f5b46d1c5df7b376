/-
Decimal numerals.

A numeral is a text of decimal digits that has no zero in front, unless zero is all of it. Every
number has exactly one, and `numeral` writes it (`isNumeral_iff`). A number below a power of ten has
no more digits than the power has zeros, so that it can be filled up with zeros to a fixed width
without a change of its value.
-/
import Mathlib.Data.List.Basic
import Mathlib.Data.List.Induction
import Rollup.Powers
import Rollup.Text.Numeral

set_option autoImplicit false

namespace Rollup.Text

/-! ## Digits -/

/-- A text of decimal digits. -/
def IsDigits (s : List Char) : Prop := ∀ c ∈ s, isDecimal c = true

/-- The number that decimal digits spell. -/
def decimalValue (s : List Char) : Nat := ofDigits 10 (s.map fun c => c.toNat - 0x30)

/-- Digits behind digits are digits. -/
theorem IsDigits.append {a b : List Char} (ha : IsDigits a) (hb : IsDigits b) :
    IsDigits (a ++ b) := by
  intro c hc
  rcases List.mem_append.mp hc with h | h
  · exact ha c h
  · exact hb c h

/-- A text is digits if its parts are. -/
theorem isDigits_append_iff {a b : List Char} : IsDigits (a ++ b) ↔ IsDigits a ∧ IsDigits b := by
  constructor
  · intro h
    exact ⟨fun c hc => h c (List.mem_append_left b hc), fun c hc => h c (List.mem_append_right a hc)⟩
  · rintro ⟨ha, hb⟩
    exact ha.append hb

/-- Zeros are digits. -/
theorem isDigits_replicate_zero (count : Nat) : IsDigits (List.replicate count '0') := by
  intro c hc
  rw [List.eq_of_mem_replicate hc]
  rfl

/-- The digit of a number is read as this number. -/
theorem digitChar_spec :
    ∀ d < 10, isDecimal (digitChar d) = true ∧ (digitChar d).toNat - 0x30 = d := by
  decide

/-- A digit is the one of the number that it is read as. -/
theorem digitChar_of_isDecimal {c : Char} (h : isDecimal c = true) :
    c.toNat - 0x30 < 10 ∧ digitChar (c.toNat - 0x30) = c := by
  unfold isDecimal at h
  rw [Bool.and_eq_true, decide_eq_true_iff, decide_eq_true_iff] at h
  refine ⟨by omega, ?_⟩
  rw [digitChar, if_pos (by omega), show 0x30 + (c.toNat - 0x30) = c.toNat by omega,
    Char.ofNat_toNat]

/-! ## Values -/

theorem decimalValue_nil : decimalValue [] = 0 := rfl

/-- A further digit moves the others up by a power of ten. -/
theorem decimalValue_append_singleton (s : List Char) (c : Char) :
    decimalValue (s ++ [c]) = 10 * decimalValue s + (c.toNat - 0x30) := by
  rw [decimalValue, List.map_append, List.map_singleton, ofDigits_append_singleton]
  rfl

/-- Digits behind others shift these by their number. -/
theorem decimalValue_append (a b : List Char) :
    decimalValue (a ++ b) = decimalValue a * 10 ^ b.length + decimalValue b := by
  induction b using List.reverseRecOn with
  | nil => rw [List.append_nil, List.length_nil, Nat.pow_zero, Nat.mul_one, decimalValue_nil]; rfl
  | append_singleton b c ih =>
    rw [← List.append_assoc, decimalValue_append_singleton, ih, decimalValue_append_singleton,
      List.length_append, List.length_singleton, Nat.pow_succ, Nat.mul_add]
    rw [show 10 * (decimalValue a * 10 ^ b.length) = decimalValue a * (10 ^ b.length * 10) by
      rw [Nat.mul_comm 10, Nat.mul_assoc]]
    omega

/-- Zeros are zero. -/
theorem decimalValue_zeros (count : Nat) : decimalValue (List.replicate count '0') = 0 := by
  induction count with
  | zero => rfl
  | succ count ih =>
    rw [List.replicate_succ', decimalValue_append_singleton, ih]
    rfl

/-- Digits are a number below the power of ten. -/
theorem decimalValue_lt {s : List Char} (h : IsDigits s) : decimalValue s < 10 ^ s.length := by
  induction s using List.reverseRecOn with
  | nil => decide
  | append_singleton s c ih =>
    obtain ⟨hs, hc⟩ := isDigits_append_iff.mp h
    have hdigit := (digitChar_of_isDecimal (hc c (List.mem_singleton_self c))).1
    have hlt := ih hs
    rw [decimalValue_append_singleton, List.length_append, List.length_singleton, Nat.pow_succ]
    omega

/-! ## Numerals -/

/-- Decimal digits that spell a number, with no zero in front unless it is the only digit. -/
structure IsNumeral (s : List Char) (n : Nat) : Prop where
  digits : IsDigits s
  ne_nil : s ≠ []
  head : s.head? = some '0' → s = ['0']
  value : decimalValue s = n

/-- A number below ten is one digit. -/
theorem numeral_of_lt {n : Nat} (h : n < 10) : numeral 10 n = [digitChar n] := by
  rw [numeral, digits, dif_pos (.inr h), List.map_singleton]

/-- Any other number is the numeral of its tenth and one more digit. -/
theorem numeral_of_le {n : Nat} (h : 10 ≤ n) :
    numeral 10 n = numeral 10 (n / 10) ++ [digitChar (n % 10)] := by
  rw [numeral, digits, dif_neg (by omega), List.map_append, List.map_singleton]
  rfl

/-- The numeral of a number stands for it. -/
theorem isNumeral_numeral (n : Nat) : IsNumeral (numeral 10 n) n := by
  induction n using Nat.strongRecOn with
  | ind n ih =>
    by_cases hn : n < 10
    · obtain ⟨hdecimal, hvalue⟩ := digitChar_spec n hn
      rw [numeral_of_lt hn]
      refine ⟨?_, List.cons_ne_nil _ _, fun hzero => ?_, ?_⟩
      · intro c hc
        rw [List.mem_singleton.mp hc]
        exact hdecimal
      · rw [List.head?_cons, Option.some.injEq] at hzero
        rw [hzero]
      · rw [← List.nil_append [_], decimalValue_append_singleton, hvalue, decimalValue_nil]
        omega
    · obtain ⟨hdecimal, hvalue⟩ := digitChar_spec (n % 10) (by omega)
      have hrest := ih (n / 10) (by omega)
      rw [numeral_of_le (by omega)]
      refine ⟨hrest.digits.append ?_, by simp, fun hzero => ?_, ?_⟩
      · intro c hc
        rw [List.mem_singleton.mp hc]
        exact hdecimal
      · -- What stands in front would be a single zero, but it spells ten times as much as is left.
        rw [List.head?_append_of_ne_nil _ hrest.ne_nil] at hzero
        have hspelled := hrest.value
        rw [hrest.head hzero] at hspelled
        change 0 = n / 10 at hspelled
        omega
      · rw [decimalValue_append_singleton, hvalue, hrest.value]
        omega

/-- **A number has one numeral.** -/
theorem isNumeral_iff {s : List Char} {n : Nat} : IsNumeral s n ↔ s = numeral 10 n := by
  constructor
  · intro h
    induction s using List.reverseRecOn generalizing n with
    | nil => exact absurd rfl h.ne_nil
    | append_singleton s c ih =>
      obtain ⟨hs, hc⟩ := isDigits_append_iff.mp h.digits
      obtain ⟨hlt, hchar⟩ := digitChar_of_isDecimal (hc c (List.mem_singleton_self c))
      have hvalue := h.value
      rw [decimalValue_append_singleton] at hvalue
      by_cases hnil : s = []
      · rw [hnil, decimalValue_nil] at hvalue
        rw [hnil, numeral_of_lt (by omega), ← hchar, show n = c.toNat - 0x30 by omega, hchar]
        rfl
      · have hhead : s.head? ≠ some '0' := by
          intro hzero
          have hall := h.head (by rw [List.head?_append_of_ne_nil _ hnil]; exact hzero)
          have hlength := congrArg List.length hall
          rw [List.length_append, List.length_singleton, List.length_singleton] at hlength
          exact hnil (List.length_eq_zero_iff.mp (by omega))
        have hfront := ih ⟨hs, hnil, fun hzero => absurd hzero hhead, rfl⟩
        -- A front that spells zero would be a zero.
        have hpos : decimalValue s ≠ 0 := by
          intro hzero
          rw [hzero, numeral_of_lt (by decide)] at hfront
          exact hhead (by rw [hfront]; rfl)
        rw [numeral_of_le (by omega), show n / 10 = decimalValue s by omega, ← hfront,
          show n % 10 = c.toNat - 0x30 by omega, hchar]
  · rintro rfl
    exact isNumeral_numeral n

/-- A number below a power of ten has no more digits. -/
theorem length_numeral_le {n k : Nat} (hk : 0 < k) (h : n < 10 ^ k) :
    (numeral 10 n).length ≤ k := by
  induction k generalizing n with
  | zero => omega
  | succ k ih =>
    by_cases hn : n < 10
    · rw [numeral_of_lt hn, List.length_singleton]
      omega
    · -- A number of two digits or more is not below ten.
      have hkpos : 0 < k := by
        by_contra hzero
        rw [show k = 0 by omega] at h
        omega
      rw [Nat.pow_succ] at h
      have hrest := ih hkpos (show n / 10 < 10 ^ k by omega)
      rw [numeral_of_le (by omega), List.length_append, List.length_singleton]
      omega

/-! ## Fixed width -/

/-- Zeros in front fill a numeral up to a width and do not change its value. -/
theorem padFront_numeral {n k : Nat} (hk : 0 < k) (h : n < 10 ^ k) :
    IsDigits (padFront '0' k (numeral 10 n)) ∧ (padFront '0' k (numeral 10 n)).length = k ∧
      decimalValue (padFront '0' k (numeral 10 n)) = n := by
  have hnumeral := isNumeral_numeral n
  have hlength := length_numeral_le hk h
  unfold padFront
  refine ⟨(isDigits_replicate_zero _).append hnumeral.digits, ?_, ?_⟩
  · rw [List.length_append, List.length_replicate]
    omega
  · rw [decimalValue_append, decimalValue_zeros, hnumeral.value]
    omega

/-- Digits are known from their number and their value. -/
theorem eq_of_decimalValue_eq {a b : List Char} (ha : IsDigits a) (hb : IsDigits b)
    (hlength : a.length = b.length) (hvalue : decimalValue a = decimalValue b) : a = b := by
  induction a using List.reverseRecOn generalizing b with
  | nil => exact (List.length_eq_zero_iff.mp hlength.symm).symm
  -- From the last digit to the first: the number says what the last digit is and what the others
  -- are.
  | append_singleton a c ih =>
    have hne : b ≠ [] := by
      rintro rfl
      simp at hlength
    obtain ⟨b, d, rfl⟩ := (List.eq_nil_or_concat' b).resolve_left hne
    obtain ⟨ha, hc⟩ := isDigits_append_iff.mp ha
    obtain ⟨hb, hd⟩ := isDigits_append_iff.mp hb
    obtain ⟨hclt, hcchar⟩ := digitChar_of_isDecimal (hc c (List.mem_singleton_self c))
    obtain ⟨hdlt, hdchar⟩ := digitChar_of_isDecimal (hd d (List.mem_singleton_self d))
    rw [decimalValue_append_singleton, decimalValue_append_singleton] at hvalue
    rw [List.length_append, List.length_append, List.length_singleton, List.length_singleton]
      at hlength
    rw [ih ha hb (by omega) (by omega), ← hcchar, ← hdchar,
      show c.toNat - 0x30 = d.toNat - 0x30 by omega]

end Rollup.Text
