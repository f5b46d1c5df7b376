/-
Whole numbers of 64 bits are no problem for doubles.

Such a number is next to a double whose significand and exponent are bounded
(`exists_nearest_of_lt`), far below where doubles end, and a product is finite as long as its
logarithm is (`exists_nearest_of_log2`). So the plain conversion of numbers, which multiplies two
doubles, never finds a whole number of 64 bits too large.
-/
import Rollup.Decimal.Double

set_option autoImplicit false

namespace Rollup.Decimal

theorem roundEven_le {num den bound : Nat} (h : num < bound * den) :
    roundEven num den ≤ bound := by
  have hquotient : num / den < bound := Nat.div_lt_of_lt_mul (by rwa [Nat.mul_comm])
  unfold roundEven
  dsimp only
  split
  · omega
  · split
    · omega
    · split <;> omega

theorem log2Ratio_le (num den : Nat) : log2Ratio num den ≤ num.log2 := by
  unfold log2Ratio
  dsimp only
  split <;> omega

theorem log2Ratio_one {k : Nat} (hk : k ≠ 0) : log2Ratio k 1 = k.log2 := by
  have hone : Nat.log2 1 = 0 := by decide
  simp [log2Ratio, scaleDown, hone, Nat.log2_self_le hk]

/-- A fraction below `2 ^ 1023` is next to a finite double. -/
theorem exists_nearest_of_log2 {num den : Nat} (h : num.log2 ≤ 1022) :
    ∃ m e, nearest num den = .finite m e := by
  have hlog := log2Ratio_le num den
  unfold nearest
  split
  · exact ⟨_, _, rfl⟩
  · have hgreatest (m : Nat) : ¬ greatestExponent <
        (if m = 2 ^ 53 then (2 ^ 52, max leastExponent (log2Ratio num den - 52) + 1)
          else (m, max leastExponent (log2Ratio num den - 52))).2 := by
      unfold greatestExponent leastExponent
      split <;> dsimp only <;> omega
    exact ⟨_, _, if_neg (hgreatest _)⟩

/-- The double next to a whole number of 64 bits. -/
theorem exists_nearest_of_lt {k : Nat} (h : k < 2 ^ 64) :
    ∃ m e, nearest k 1 = .finite m e ∧ m ≤ 2 ^ 53 ∧ e ≤ 12 := by
  unfold nearest
  by_cases hk : k = 0
  · rw [if_pos hk]
    exact ⟨_, _, rfl, Nat.zero_le _, by decide⟩
  · have hlog : k.log2 < 64 := (Nat.log2_lt hk).mpr h
    have hlt : k < 2 ^ (k.log2 + 1) := Nat.lt_log2_self
    have hmax : max leastExponent ((k.log2 : Int) - 52) = k.log2 - 52 := by
      unfold leastExponent
      omega
    -- The number is scaled to 53 bits, up or down.
    have hround : roundEven (scaleDown k 1 (k.log2 - 52)).1 (scaleDown k 1 (k.log2 - 52)).2 ≤
        2 ^ 53 := by
      apply roundEven_le
      rw [scaleDown]
      split
      next hle =>
        have hsplit : k.log2 + 1 = 53 + ((k.log2 : Int) - 52).toNat := by omega
        rw [hsplit, Nat.pow_add] at hlt
        rwa [Nat.one_mul]
      next hneg =>
        have hsplit : 53 = k.log2 + 1 + (-((k.log2 : Int) - 52)).toNat := by omega
        rw [Nat.mul_one, hsplit, Nat.pow_add]
        exact Nat.mul_lt_mul_of_pos_right hlt (Nat.two_pow_pos _)
    rw [if_neg hk, log2Ratio_one hk, hmax]
    dsimp only
    split
    · rw [if_neg (by unfold greatestExponent; dsimp only; omega)]
      exact ⟨_, _, rfl, Nat.pow_le_pow_right (by decide) (by decide), by dsimp only; omega⟩
    · rw [if_neg (by unfold greatestExponent; dsimp only; omega)]
      exact ⟨_, _, rfl, hround, by dsimp only; omega⟩

theorem times_one_ne_infinite {k : Nat} (h : k < 2 ^ 64) :
    (nearest k 1).times (nearest (10 ^ 0) 1) ≠ .infinite := by
  obtain ⟨m, e, hnearest, hm, he⟩ := exists_nearest_of_lt h
  have hunit : nearest (10 ^ 0) 1 = .finite (2 ^ 52) (-52) := by decide +kernel
  -- The product with one has at most 106 digits, far from the greatest exponent.
  have hlog : (m * 2 ^ 52).log2 ≤ 1022 := by
    by_cases hzero : m * 2 ^ 52 = 0
    · rw [hzero]
      decide
    · have hlt := (Nat.log2_lt hzero).mpr (show m * 2 ^ 52 < 2 ^ 106 by omega)
      omega
  rw [hnearest, hunit, Magnitude.times]
  dsimp only
  rw [scaleDown, if_pos (by omega)]
  obtain ⟨m', e', hproduct⟩ := exists_nearest_of_log2 hlog
  rw [hproduct]
  exact nofun

end Rollup.Decimal
