/-
When an overflow is reported, and when the fee is indeed too large.

A fee is reported as an overflow as soon as one of its steps does not fit into a word. The
division comes last and takes a factor of 16 million away, and a product with zero takes
everything away, so that the fee itself may fit although a step does not. Three steps decide:
the base fee times sixteen, the price, and the price times the size. The last two are one
condition if the size of an empty string is counted as one (`fits_iff_max`).

An overflow is therefore a true statement about the fee in two cases only, which
`overflow_warranted_iff` names. Of a byte string that is not empty, at a base fee that is not
itself beyond the limit, it still says that the fee is 2 ^ 232 wei or more.
-/
import Rollup.Proofs.Fee.Formula

set_option autoImplicit false

namespace Rollup.Fee

variable {bytes : Bytes} {p : Parameters}

/-! ## Steps that do not fit -/

theorem byteCost_pos (b : UInt8) : 1 ≤ byteCost b := by
  unfold byteCost
  split <;> decide

theorem exactSize_pos (h : bytes ≠ []) : 1 ≤ exactSize bytes := by
  obtain ⟨b, rest, rfl⟩ := List.exists_cons_of_ne_nil h
  have hb := byteCost_pos b
  have hsplit : exactSize (b :: rest) = exactSize [b] + exactSize rest := exactSize_append [b] rest
  rw [hsplit, exactSize_singleton]
  omega

/-- The price fits if its product with the size does, unless the size is zero. -/
theorem fits_iff_max :
    Fits bytes p ↔ 16 * p.l1BaseFee.toNat < 2 ^ 256 ∧
      max 1 (exactSize bytes) * exactPrice p < 2 ^ 256 := by
  rw [fits_iff]
  apply and_congr_right
  intro _
  by_cases hsize : exactSize bytes = 0
  · rw [hsize, Nat.max_eq_left (Nat.zero_le 1), Nat.one_mul, Nat.zero_mul]
    exact and_iff_left (Nat.two_pow_pos 256)
  · rw [Nat.max_eq_right (Nat.pos_of_ne_zero hsize)]
    refine and_iff_right_of_imp ?_
    intro hproduct
    exact Nat.lt_of_le_of_lt (Nat.le_mul_of_pos_left _ (Nat.pos_of_ne_zero hsize)) hproduct

theorem fee_eq_overflow_iff (h : bytes.length < 2 ^ 60) :
    fee bytes p = .error .overflow ↔ ¬ Fits bytes p := by
  constructor
  · intro hfee hfits
    obtain ⟨f, hok, -⟩ := fee_of_fits h hfits
    rw [hok] at hfee
    cases hfee
  · exact fee_of_not_fits h

/-! ## Fees that do not fit -/

/-- The fee is too large if the product is, by the factor of the divisor. -/
theorem le_exactFee_iff (n : Nat) :
    n ≤ exactFee bytes p ↔ n * 16000000 ≤ exactSize bytes * exactPrice p :=
  Nat.le_div_iff_mul_le (by decide)

/-- A fee that does not fit is never computed, because some step does not fit either. -/
theorem not_fits_of_le_exactFee (h : 2 ^ 256 ≤ exactFee bytes p) : ¬ Fits bytes p := by
  intro hfits
  have hle := (le_exactFee_iff (2 ^ 256)).mp h
  have hlt := hfits.product
  omega

/-- **When an overflow is reported, and when that is warranted.** It is reported exactly if the base
fee times sixteen, the price, or the price times the size does not fit, and so for every fee that
does not fit. It means that the fee does not fit exactly where it is not reported at all, or where
the product is beyond the limit by the whole divisor; and for bytes that cost anything, at a base
fee that fits sixteen times, it means that the fee is beyond a 16 millionth of the limit. -/
theorem overflow_warranted_iff (h : bytes.length < 2 ^ 60) (p : Parameters) :
    (fee bytes p = .error .overflow ↔
      2 ^ 256 ≤ 16 * p.l1BaseFee.toNat ∨ 2 ^ 256 ≤ max 1 (exactSize bytes) * exactPrice p) ∧
    (2 ^ 256 ≤ exactFee bytes p → fee bytes p = .error .overflow) ∧
    ((fee bytes p = .error .overflow → 2 ^ 256 ≤ exactFee bytes p) ↔
      (16 * p.l1BaseFee.toNat < 2 ^ 256 ∧ max 1 (exactSize bytes) * exactPrice p < 2 ^ 256) ∨
      2 ^ 256 * 16000000 ≤ exactSize bytes * exactPrice p) ∧
    (fee bytes p = .error .overflow → bytes ≠ [] → 16 * p.l1BaseFee.toNat < 2 ^ 256 →
      2 ^ 256 / 16000000 ≤ exactFee bytes p) := by
  have hoverflow := fee_eq_overflow_iff (p := p) h
  refine ⟨?_, ?_, ?_, ?_⟩
  · rw [hoverflow, fits_iff_max]
    omega
  · intro hfee
    exact hoverflow.mpr (not_fits_of_le_exactFee hfee)
  · rw [hoverflow, le_exactFee_iff, ← fits_iff_max]
    constructor
    · intro hwarranted
      by_cases hfits : Fits bytes p
      · exact .inl hfits
      · exact .inr (hwarranted hfits)
    · rintro (hfits | hle) hnot
      · exact absurd hfits hnot
      · exact hle
  · intro hfee hbytes hbase
    -- The product is what does not fit, and dividing it leaves what the limit leaves.
    have hsize := exactSize_pos hbytes
    have hproduct : 2 ^ 256 ≤ exactSize bytes * exactPrice p := by
      have hnot := hoverflow.mp hfee
      rw [fits_iff_max, Nat.max_eq_right hsize] at hnot
      omega
    exact Nat.div_le_div_right hproduct

/-- A byte at the greatest base fee with the greatest scalar: the fee is as large as it is said to
be. -/
theorem overflow_warranted_greatest :
    ([0xFA] : Bytes).length < 2 ^ 60 ∧
    fee [0xFA] ⟨BitVec.allOnes 256, 0, BitVec.allOnes 256, 0⟩ = .error .overflow ∧
    2 ^ 256 ≤ exactFee [0xFA] ⟨BitVec.allOnes 256, 0, BitVec.allOnes 256, 0⟩ := by
  have h : ([0xFA] : Bytes).length < 2 ^ 60 := by decide
  obtain ⟨hreported, -, hwarranted, -⟩ :=
    overflow_warranted_iff h ⟨BitVec.allOnes 256, 0, BitVec.allOnes 256, 0⟩
  have hfee := hreported.mpr (.inl (by decide))
  exact ⟨h, hfee, hwarranted.mpr (.inr (by decide)) hfee⟩

/-- The greatest blob fee, at the lowest scalar. -/
def dearBlobs : Parameters :=
  { Parameters.reference with blobBaseFee := BitVec.allOnes 256, blobBaseFeeScalar := 1 }

/-- A fee that fits by far is reported as an overflow, because the price does not fit. -/
theorem overflow_of_fitting_fee :
    ([1, 2, 3] : Bytes).length < 2 ^ 60 ∧
    fee [1, 2, 3] dearBlobs = .error .overflow ∧
    exactFee [1, 2, 3] dearBlobs < 2 ^ 239 ∧
    ¬ (fee [1, 2, 3] dearBlobs = .error .overflow → 2 ^ 256 ≤ exactFee [1, 2, 3] dearBlobs) := by
  have h : ([1, 2, 3] : Bytes).length < 2 ^ 60 := by decide
  have hfee : fee [1, 2, 3] dearBlobs = .error .overflow := by
    rw [fee_eq_overflow_iff h, fits_iff]
    decide
  have hfits : exactFee [1, 2, 3] dearBlobs < 2 ^ 239 := by decide
  refine ⟨h, hfee, hfits, ?_⟩
  intro hwarranted
  have hle := hwarranted hfee
  omega

end Rollup.Fee
