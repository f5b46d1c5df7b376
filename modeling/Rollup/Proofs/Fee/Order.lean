/-
Less data at lower prices never costs more.

A byte string becomes lighter when a byte is deleted or made zero, and it may do so any number
of times (`Lighter`). Its size does not grow then, and neither do the price and the product when
no parameter does. A fee is computed exactly if every step fits, and the exact results of all
steps are products and sums of these numbers. So where the heavier string has a fee the lighter
one has a fee too, and it is not greater: an overflow stands above all fees.
-/
import Mathlib.Logic.Relation
import Rollup.Proofs.Fee.Formula

set_option autoImplicit false

namespace Rollup.Fee

/-! ## Lighter bytes -/

/-- One change that makes a byte string lighter. -/
inductive Lightens : Bytes → Bytes → Prop where
  | delete (front back : Bytes) (b : UInt8) : Lightens (front ++ b :: back) (front ++ back)
  | zero (front back : Bytes) {b : UInt8} : b ≠ 0 →
    Lightens (front ++ b :: back) (front ++ 0 :: back)

/-- The first byte string is the second one after some bytes were deleted and others made zero. -/
def Lighter (x y : Bytes) : Prop := Relation.ReflTransGen Lightens y x

variable {x y : Bytes}

theorem exactSize_middle (front back : Bytes) (b : UInt8) :
    exactSize (front ++ b :: back) = exactSize front + (byteCost b + exactSize back) := by
  have hsplit : exactSize (b :: back) = exactSize [b] + exactSize back := exactSize_append [b] back
  rw [exactSize_append, hsplit, exactSize_singleton]

/-- No byte costs less than a zero byte. -/
theorem byteCost_zero_le (b : UInt8) : byteCost 0 ≤ byteCost b := by
  unfold byteCost
  by_cases hb : b = 0
  · subst hb
    exact Nat.le_refl _
  · rw [if_pos rfl, if_neg hb]
    decide

/-- **A change neither lengthens a byte string nor makes it cost more.** -/
theorem Lightens.le (h : Lightens y x) :
    x.length ≤ y.length ∧ exactSize x ≤ exactSize y := by
  cases h with
  | delete front back b =>
    rw [exactSize_middle, exactSize_append, List.length_append, List.length_append,
      List.length_cons]
    omega
  | @zero front back b hb =>
    have hcost := byteCost_zero_le b
    rw [exactSize_middle, exactSize_middle, List.length_append, List.length_append,
      List.length_cons, List.length_cons]
    omega

theorem Lighter.le (h : Lighter x y) : x.length ≤ y.length ∧ exactSize x ≤ exactSize y := by
  induction h with
  | refl => exact ⟨Nat.le_refl _, Nat.le_refl _⟩
  | tail _ hstep ih =>
    obtain ⟨hlength, hsize⟩ := hstep.le
    exact ⟨Nat.le_trans hlength ih.1, Nat.le_trans hsize ih.2⟩

/-! ## Lower parameters -/

variable {p q : Parameters}

theorem exactPrice_mono (h : ∀ field, p.get field ≤ q.get field) :
    exactPrice p ≤ exactPrice q := by
  unfold exactPrice
  apply Nat.add_le_add
  · apply Nat.mul_le_mul
    · exact Nat.mul_le_mul_left _ (h .l1BaseFee)
    · exact h .baseFeeScalar
  · exact Nat.mul_le_mul (h .blobBaseFee) (h .blobBaseFeeScalar)

/-- The steps of a lower fee fit where those of a higher one do. -/
theorem Fits.mono (hfits : Fits y q) (hbytes : Lighter x y)
    (hparameters : ∀ field, p.get field ≤ q.get field) : Fits x p := by
  obtain ⟨hbase, hprice, hproduct⟩ := fits_iff.mp hfits
  have hprices := exactPrice_mono hparameters
  refine fits_iff.mpr ⟨?_, ?_, ?_⟩
  · exact Nat.lt_of_le_of_lt (Nat.mul_le_mul_left 16 (hparameters .l1BaseFee)) hbase
  · exact Nat.lt_of_le_of_lt hprices hprice
  · exact Nat.lt_of_le_of_lt (Nat.mul_le_mul hbytes.le.2 hprices) hproduct

theorem exactFee_mono (hbytes : Lighter x y)
    (hparameters : ∀ field, p.get field ≤ q.get field) : exactFee x p ≤ exactFee y q := by
  apply Nat.div_le_div_right
  exact Nat.mul_le_mul hbytes.le.2 (exactPrice_mono hparameters)

/-- **Fees are monotone, with an overflow above all of them.** Where a byte string has a fee, a
lighter one at parameters none of which is greater has a fee as well, which is not greater; and
where the lighter one overflows, so does the other. -/
theorem fee_monotone (hy : y.length < 2 ^ 60) (hbytes : Lighter x y)
    (hparameters : ∀ field, p.get field ≤ q.get field) :
    (∀ g, fee y q = .ok g → ∃ f, fee x p = .ok f ∧ f ≤ g) ∧
    (fee x p = .error .overflow → fee y q = .error .overflow) := by
  have hx : x.length < 2 ^ 60 := Nat.lt_of_le_of_lt hbytes.le.1 hy
  constructor
  · intro g hg
    obtain ⟨hfits, hexact⟩ := (fee_eq_ok_iff hy).mp hg
    obtain ⟨f, hf, hvalue⟩ := fee_of_fits hx (hfits.mono hbytes hparameters)
    refine ⟨f, hf, ?_⟩
    rw [BitVec.le_def, hvalue, hexact]
    exact exactFee_mono hbytes hparameters
  · -- The other way round: were there a fee for more, then there would be one for less.
    intro hoverflow
    apply fee_of_not_fits hy
    intro hfits
    obtain ⟨f, hf, -⟩ := fee_of_fits hx (hfits.mono hbytes hparameters)
    rw [hf] at hoverflow
    cases hoverflow

/-- The first of three bytes is made zero and the last one deleted, while one parameter becomes
zero and another one a tenth. -/
theorem fee_monotone_twoEdits :
    ([0xFA, 0xCA, 0xDE] : Bytes).length < 2 ^ 60 ∧ Lighter [0x00, 0xCA] [0xFA, 0xCA, 0xDE] ∧
    ∃ f g, fee [0xFA, 0xCA, 0xDE] ⟨1000, 1000, 1000, 1000⟩ = .ok g ∧
      fee [0x00, 0xCA] ⟨100, 1000, 1000, 0⟩ = .ok f ∧ f ≤ g := by
  have hy : ([0xFA, 0xCA, 0xDE] : Bytes).length < 2 ^ 60 := by decide
  have hbytes : Lighter [0x00, 0xCA] [0xFA, 0xCA, 0xDE] := by
    -- One byte becomes zero, and then the last one goes.
    have hfirst : Lightens [0xFA, 0xCA, 0xDE] [0x00, 0xCA, 0xDE] := .zero [] _ (by decide)
    have hlast : Lightens [0x00, 0xCA, 0xDE] [0x00, 0xCA] := .delete [0x00, 0xCA] [] 0xDE
    exact (Relation.ReflTransGen.single hfirst).tail hlast
  have hparameters : ∀ field, (⟨100, 1000, 1000, 0⟩ : Parameters).get field ≤
      (⟨1000, 1000, 1000, 1000⟩ : Parameters).get field := by
    intro field
    cases field <;> decide
  obtain ⟨g, hg, -⟩ := fee_of_fits hy (p := ⟨1000, 1000, 1000, 1000⟩) (fits_iff.mpr (by decide))
  obtain ⟨f, hf, hle⟩ := (fee_monotone hy hbytes hparameters).1 g hg
  exact ⟨hy, hbytes, f, g, hg, hf, hle⟩

end Rollup.Fee
