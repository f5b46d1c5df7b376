/-
Numbers as strings of bytes.

A field of fixed width holds a number as long as the number fits (`value_bigEndian`), and
every string of bytes is the field of the number that it spells (`bigEndian_value`). A
numeral is a string of bytes without a zero byte in front. Every number has exactly one
numeral, and `minimal` writes it (`isNumeral_iff`).
-/
import Mathlib.Data.List.Induction
import Rollup.Bytes
import Rollup.Powers

set_option autoImplicit false

namespace Rollup.Bytes

/-! ## Fields of fixed width -/

theorem value_nil : value [] = 0 := rfl

/-- Zero bytes in front do not count. -/
theorem value_zeros_append (count : Nat) (bytes : Bytes) :
    value (List.replicate count 0 ++ bytes) = value bytes := by
  induction bytes using List.reverseRecOn with
  | nil =>
    rw [List.append_nil]
    induction count with
    | zero => rfl
    | succ count ih =>
      rw [List.replicate_succ', value_append_singleton, ih]
      rfl
  | append_singleton bytes b ih =>
    rw [← List.append_assoc, value_append_singleton, value_append_singleton, ih]

theorem value_bigEndian (width n : Nat) : value (bigEndian width n) = n % 256 ^ width := by
  induction width generalizing n with
  | zero => rw [Nat.pow_zero, Nat.mod_one]; rfl
  | succ width ih =>
    have hlast : (UInt8.ofNat n).toNat = n % 256 := UInt8.toNat_ofNat'
    rw [bigEndian, value_append_singleton, ih, hlast, Nat.pow_succ, Nat.mul_comm (256 ^ width),
      Nat.mod_mul]
    omega

theorem bigEndian_value (bytes : Bytes) : bigEndian bytes.length (value bytes) = bytes := by
  induction bytes using List.reverseRecOn with
  | nil => rfl
  | append_singleton bytes b ih =>
    have hb : b.toNat < 256 := b.toNat_lt
    have hdiv : value (bytes ++ [b]) / 256 = value bytes := by
      rw [value_append_singleton]; omega
    have hlast : UInt8.ofNat (value (bytes ++ [b])) = b := by
      apply UInt8.toNat_inj.mp
      rw [UInt8.toNat_ofNat', value_append_singleton]
      omega
    rw [List.length_append, List.length_singleton, bigEndian, hdiv, hlast, ih]

theorem value_lt (bytes : Bytes) : value bytes < 256 ^ bytes.length := by
  have hmod := value_bigEndian bytes.length (value bytes)
  rw [bigEndian_value] at hmod
  rw [hmod]
  exact Nat.mod_lt _ (Nat.pow_pos (by decide))

/-- Strings of one length are equal if they spell one number. -/
theorem eq_of_value_eq {a b : Bytes} (hlength : a.length = b.length) (hvalue : value a = value b) :
    a = b := by
  rw [← bigEndian_value a, ← bigEndian_value b, hlength, hvalue]

/-! ## Numerals -/

/-- A string of bytes that spells a number without a zero byte in front. -/
def IsNumeral (bytes : Bytes) (n : Nat) : Prop := value bytes = n ∧ bytes.head? ≠ some 0

theorem IsNumeral.eq_nil {bytes : Bytes} (h : bytes.IsNumeral 0) : bytes = [] := by
  obtain ⟨hvalue, hhead⟩ := h
  induction bytes using List.reverseRecOn with
  | nil => rfl
  | append_singleton bytes b ih =>
    rw [value_append_singleton] at hvalue
    -- What stands in front of the last byte spells zero as well, so it is nothing.
    have hnil : bytes = [] := by
      apply ih (by omega)
      intro hzero
      exact hhead (by rw [List.head?_append, hzero]; rfl)
    have hb : b = 0 := UInt8.toNat_inj.mp (by rw [UInt8.toNat_zero]; omega)
    rw [hnil, hb] at hhead
    exact absurd rfl hhead

theorem IsNumeral.length_pos {bytes : Bytes} {n : Nat} (h : bytes.IsNumeral n) (hn : 0 < n) :
    0 < bytes.length := by
  apply List.length_pos_iff.mpr
  rintro rfl
  have hvalue := h.1
  rw [value_nil] at hvalue
  omega

theorem isNumeral_minimal (n : Nat) : (minimal n).IsNumeral n := by
  refine ⟨value_minimal n, ?_⟩
  induction n using Nat.strongRecOn with
  | ind n ih =>
    rw [minimal]
    by_cases hn : n = 0
    · rw [if_pos hn]
      exact (Option.some_ne_none 0).symm
    · rw [if_neg hn]
      by_cases hrest : n / 256 = 0
      · -- The number is a single byte, and not zero.
        have hlast : UInt8.ofNat n ≠ 0 := by
          intro hzero
          have hmod := congrArg UInt8.toNat hzero
          rw [UInt8.toNat_ofNat', UInt8.toNat_zero] at hmod
          omega
        rw [hrest, minimal, if_pos rfl, List.nil_append, List.head?_cons]
        exact fun h => hlast (Option.some.inj h)
      · have hne : minimal (n / 256) ≠ [] := by
          intro hnil
          have hvalue := value_minimal (n / 256)
          rw [hnil, value_nil] at hvalue
          exact hrest hvalue.symm
        obtain ⟨c, rest, hcons⟩ := List.exists_cons_of_ne_nil hne
        have hhead := ih (n / 256) (by omega)
        rw [hcons] at hhead ⊢
        exact hhead

/-- **A number has one numeral.** -/
theorem isNumeral_iff {bytes : Bytes} {n : Nat} : bytes.IsNumeral n ↔ bytes = minimal n := by
  constructor
  · intro h
    induction bytes using List.reverseRecOn generalizing n with
    | nil => rw [← h.1, value_nil, minimal, if_pos rfl]
    | append_singleton bytes b ih =>
      obtain ⟨hvalue, hhead⟩ := h
      have hn : n ≠ 0 := by
        rintro rfl
        have hnil := IsNumeral.eq_nil ⟨hvalue, hhead⟩
        simp at hnil
      have hb : b.toNat < 256 := b.toNat_lt
      rw [value_append_singleton] at hvalue
      -- Without its last byte the numeral is one of the quotient, and it still begins with no zero.
      have hrest : IsNumeral bytes (n / 256) := by
        refine ⟨by omega, fun hzero => hhead ?_⟩
        rw [List.head?_append, hzero]
        rfl
      have hlast : UInt8.ofNat n = b := by
        apply UInt8.toNat_inj.mp
        rw [UInt8.toNat_ofNat']
        omega
      rw [minimal, if_neg hn, ← ih hrest, hlast]
  · rintro rfl
    exact isNumeral_minimal n

end Rollup.Bytes
