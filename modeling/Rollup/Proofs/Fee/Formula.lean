/-
The data fee is the exact quotient, or an overflow is reported.

The size of a byte string is counted in a number of 64 bits. A byte costs sixteen at most, so
that fewer than `2 ^ 60` of them never wrap it around (`toNat_size`). The price and the fee are
computed in words, step by step, and every step is checked. So a fee is computed exactly if the
exact result of every step fits (`Fits`), and then it is the quotient of unbounded numbers
(`fee_eq_ok_iff`).
-/
import Mathlib.Data.List.Induction
import Rollup.Fee.Formula
import Rollup.Proofs.Word

set_option autoImplicit false

namespace Rollup.Fee

/-! ## Sizes -/

theorem exactSize_append (a b : Bytes) : exactSize (a ++ b) = exactSize a + exactSize b := by
  unfold exactSize
  rw [List.countP_append, List.countP_append, Nat.mul_add, Nat.mul_add]
  omega

theorem exactSize_singleton (b : UInt8) : exactSize [b] = byteCost b := by
  unfold exactSize byteCost
  by_cases hb : b = 0
  · simp [hb]
  · simp [hb]

theorem byteCost_le (b : UInt8) : byteCost b ≤ 16 := by
  unfold byteCost
  split <;> decide

/-- Bytes cost at most 16 each. -/
theorem exactSize_le (bytes : Bytes) : exactSize bytes ≤ 16 * bytes.length := by
  induction bytes using List.reverseRecOn with
  | nil => decide
  | append_singleton bytes b ih =>
    have hb := byteCost_le b
    rw [exactSize_append, exactSize_singleton, List.length_append, List.length_singleton]
    omega

/-- A byte adds its cost to the count. -/
theorem size_append_singleton (bytes : Bytes) (b : UInt8) :
    size (bytes ++ [b]) = size bytes + UInt64.ofNat (byteCost b) := by
  rw [size, List.foldl_append]
  rfl

/-- **The count never wraps around.** -/
theorem toNat_size {bytes : Bytes} (h : bytes.length < 2 ^ 60) :
    (size bytes).toNat = exactSize bytes := by
  induction bytes using List.reverseRecOn with
  | nil => rfl
  | append_singleton bytes b ih =>
    have hle := exactSize_le (bytes ++ [b])
    rw [exactSize_append, exactSize_singleton] at hle
    rw [List.length_append, List.length_singleton] at h hle
    have hcost : (UInt64.ofNat (byteCost b)).toNat = byteCost b := by
      have hb := byteCost_le b
      rw [UInt64.toNat_ofNat']
      omega
    rw [size_append_singleton, UInt64.toNat_add, ih (by omega), hcost, exactSize_append,
      exactSize_singleton]
    omega

/-! ## Prices -/

/-- The price is there if every step has a result. -/
theorem scaledPrice_eq_ok_iff_steps {p : Parameters} {w : Word} :
    scaledPrice p = .ok w ↔ ∃ base calldata blob : Word,
      Word.mul? p.l1BaseFee (BitVec.ofNat 256 nonZeroByteCost) = some base ∧
      Word.mul? base p.baseFeeScalar = some calldata ∧
      Word.mul? p.blobBaseFee p.blobBaseFeeScalar = some blob ∧
      Word.add? calldata blob = some w := by
  constructor
  · intro h
    unfold scaledPrice at h
    dsimp only at h
    -- Both products are there before the sum is tried.
    split at h
    next calldata blob hcalldata hblob =>
      split at h
      next sum hsum =>
        cases h
        obtain ⟨base, hbase, hcalldata⟩ := Option.bind_eq_some_iff.mp hcalldata
        exact ⟨base, calldata, blob, hbase, hcalldata, hblob, hsum⟩
      next => cases h
    next => cases h
  · rintro ⟨base, calldata, blob, hbase, hcalldata, hblob, hsum⟩
    simp only [scaledPrice, hbase, Option.bind_eq_bind, Option.bind_some, hcalldata, hblob, hsum]

/-- **The price is exact**, if it fits and the base fee times sixteen does, which is greater than
the price if the scalar is zero. -/
theorem scaledPrice_eq_ok_iff {p : Parameters} {w : Word} :
    scaledPrice p = .ok w ↔ 16 * p.l1BaseFee.toNat < 2 ^ 256 ∧ w.toNat = exactPrice p := by
  have hcost : (BitVec.ofNat 256 nonZeroByteCost).toNat = 16 := by decide
  rw [scaledPrice_eq_ok_iff_steps]
  simp only [Word.mul?_eq_some_iff, Word.add?_eq_some_iff, hcost]
  constructor
  · rintro ⟨base, calldata, blob, hbase, hcalldata, hblob, hw⟩
    have hlt := base.isLt
    refine ⟨by omega, ?_⟩
    rw [hw, hcalldata, hblob, hbase, Nat.mul_comm p.l1BaseFee.toNat]
    rfl
  · rintro ⟨hbase, hw⟩
    -- The two products are parts of the price, which is below the limit.
    have hlt : 16 * p.l1BaseFee.toNat * p.baseFeeScalar.toNat +
        p.blobBaseFee.toNat * p.blobBaseFeeScalar.toNat < 2 ^ 256 := by
      have hprice := w.isLt
      rw [hw] at hprice
      exact hprice
    obtain ⟨base, hbase⟩ := Word.exists_toNat_eq_iff.mpr hbase
    obtain ⟨calldata, hcalldata⟩ := Word.exists_toNat_eq_iff.mpr
      (Nat.lt_of_le_of_lt (Nat.le_add_right _ _) hlt)
    obtain ⟨blob, hblob⟩ := Word.exists_toNat_eq_iff.mpr
      (Nat.lt_of_le_of_lt (Nat.le_add_left _ _) hlt)
    refine ⟨base, calldata, blob, by omega, ?_, hblob, ?_⟩
    · rw [hcalldata, hbase]
    · rw [hw, hcalldata, hblob]
      rfl

/-- A price that is not there does not fit. -/
theorem scaledPrice_eq_error {p : Parameters} {e : ParameterError} (h : scaledPrice p = .error e) :
    e = .overflow ∧ ¬ (16 * p.l1BaseFee.toNat < 2 ^ 256 ∧ exactPrice p < 2 ^ 256) := by
  constructor
  · unfold scaledPrice at h
    dsimp only at h
    split at h
    · split at h
      · cases h
      · cases h
        rfl
    · cases h
      rfl
  · rintro ⟨hbase, hprice⟩
    -- If both products fit, then there is a price and no error.
    obtain ⟨w, hw⟩ := Word.exists_toNat_eq_iff.mpr hprice
    rw [scaledPrice_eq_ok_iff.mpr ⟨hbase, hw⟩] at h
    cases h

/-! ## Fees -/

/-- The exact result of every step of the fee fits into a word. -/
structure Fits (bytes : Bytes) (p : Parameters) : Prop where
  base : 16 * p.l1BaseFee.toNat < 2 ^ 256
  calldata : 16 * p.l1BaseFee.toNat * p.baseFeeScalar.toNat < 2 ^ 256
  blob : p.blobBaseFee.toNat * p.blobBaseFeeScalar.toNat < 2 ^ 256
  price : exactPrice p < 2 ^ 256
  product : exactSize bytes * exactPrice p < 2 ^ 256

/-- Of the steps of the price, the first and the last decide. -/
theorem fits_iff {bytes : Bytes} {p : Parameters} :
    Fits bytes p ↔ 16 * p.l1BaseFee.toNat < 2 ^ 256 ∧ exactPrice p < 2 ^ 256 ∧
      exactSize bytes * exactPrice p < 2 ^ 256 := by
  constructor
  · rintro ⟨hbase, -, -, hprice, hproduct⟩
    exact ⟨hbase, hprice, hproduct⟩
  · rintro ⟨hbase, hprice, hproduct⟩
    refine ⟨hbase, ?_, ?_, hprice, hproduct⟩
    · exact Nat.lt_of_le_of_lt (Nat.le_add_right _ _) hprice
    · exact Nat.lt_of_le_of_lt (Nat.le_add_left _ _) hprice

theorem toNat_divisor : (BitVec.ofNat 256 divisor).toNat = 16000000 := rfl

/-- The size of a byte string as a word. -/
theorem toNat_size_word {bytes : Bytes} (h : bytes.length < 2 ^ 60) :
    (BitVec.ofNat 256 (size bytes).toNat).toNat = exactSize bytes := by
  have hlt := (size bytes).toNat_lt
  rw [BitVec.toNat_ofNat, Nat.mod_eq_of_lt (by omega), toNat_size h]

/-- If no product overflows, then the fee is the exact one. -/
theorem fee_of_fits {bytes : Bytes} (h : bytes.length < 2 ^ 60) {p : Parameters}
    (hfits : Fits bytes p) : ∃ f, fee bytes p = .ok f ∧ f.toNat = exactFee bytes p := by
  obtain ⟨price, hprice⟩ := Word.exists_toNat_eq_iff.mpr hfits.price
  obtain ⟨product, hproduct⟩ := Word.exists_toNat_eq_iff.mpr hfits.product
  have hscaled : scaledPrice p = .ok price := scaledPrice_eq_ok_iff.mpr ⟨hfits.base, hprice⟩
  have hmul : Word.mul? price (BitVec.ofNat 256 (size bytes).toNat) = some product := by
    rw [Word.mul?_eq_some_iff, toNat_size_word h, hprice, hproduct, Nat.mul_comm]
  refine ⟨product / BitVec.ofNat 256 divisor, ?_, ?_⟩
  · simp only [fee, hscaled, bind, Except.bind, hmul]
  · rw [BitVec.toNat_udiv, hproduct, toNat_divisor]
    rfl

/-- If one does, then there is no fee. -/
theorem fee_of_not_fits {bytes : Bytes} (h : bytes.length < 2 ^ 60) {p : Parameters}
    (hfits : ¬ Fits bytes p) : fee bytes p = .error .overflow := by
  cases hscaled : scaledPrice p with
  | error e =>
    rw [(scaledPrice_eq_error hscaled).1] at hscaled
    simp only [fee, hscaled, bind, Except.bind]
  | ok price =>
    obtain ⟨hbase, hprice⟩ := scaledPrice_eq_ok_iff.mp hscaled
    -- The price is there, so it is the product that does not fit.
    have hmul : Word.mul? price (BitVec.ofNat 256 (size bytes).toNat) = none := by
      rw [Word.mul?, Word.ofNat?_eq_none, toNat_size_word h, hprice, Nat.mul_comm]
      by_contra hlt
      refine hfits (fits_iff.mpr ⟨hbase, ?_, by omega⟩)
      rw [← hprice]
      exact price.isLt
    simp only [fee, hscaled, bind, Except.bind, hmul]

/-- There is a fee if no product overflows, and it is the exact one. -/
theorem fee_eq_ok_iff {bytes : Bytes} (h : bytes.length < 2 ^ 60) {p : Parameters} {f : Word} :
    fee bytes p = .ok f ↔ Fits bytes p ∧ f.toNat = exactFee bytes p := by
  by_cases hfits : Fits bytes p
  · obtain ⟨f', hok, hf'⟩ := fee_of_fits h hfits
    rw [hok, Except.ok.injEq]
    constructor
    · rintro rfl
      exact ⟨hfits, hf'⟩
    · rintro ⟨-, hf⟩
      apply BitVec.eq_of_toNat_eq
      rw [hf', hf]
  · rw [fee_of_not_fits h hfits]
    exact iff_of_false nofun fun hf => hfits hf.1

/-- **A fee is exact.** It is the quotient of unbounded numbers, rounded down, and there is one
exactly if the result of every step fits. On the way the count of the size wraps nowhere around. -/
theorem fee_exact {bytes : Bytes} (h : bytes.length < 2 ^ 60) (p : Parameters) :
    (∀ f, fee bytes p = .ok f →
      f.toNat = (4 * bytes.countP (· = 0) + 16 * bytes.countP (· ≠ 0)) *
        (16 * p.l1BaseFee.toNat * p.baseFeeScalar.toNat +
          p.blobBaseFee.toNat * p.blobBaseFeeScalar.toNat) / 16000000) ∧
    (∀ front, front <+: bytes →
      (size front).toNat = 4 * front.countP (· = 0) + 16 * front.countP (· ≠ 0)) ∧
    ((∃ f, fee bytes p = .ok f) ↔ Fits bytes p) ∧
    (fee bytes p = .error .overflow ↔ ¬ Fits bytes p) := by
  refine ⟨fun f hf => ((fee_eq_ok_iff h).mp hf).2, fun front hfront => ?_, ?_, ?_⟩
  · -- The running size does not come round, because bytes in memory are too few for that.
    have hle := hfront.length_le
    exact toNat_size (by omega)
  · constructor
    · rintro ⟨f, hf⟩
      exact ((fee_eq_ok_iff h).mp hf).1
    · intro hfits
      obtain ⟨f, hf, -⟩ := fee_of_fits h hfits
      exact ⟨f, hf⟩
  · constructor
    · intro hf hfits
      obtain ⟨f, hok, -⟩ := fee_of_fits h hfits
      rw [hok] at hf
      cases hf
    · exact fee_of_not_fits h

/-- Two zero bytes among three others, at a price of 17 million for each unit of size. -/
theorem fee_exact_mixedBytes :
    ([0xFA, 0x00, 0xCA, 0x00, 0xDE] : Bytes).length < 2 ^ 60 ∧
    ∃ f, fee [0xFA, 0x00, 0xCA, 0x00, 0xDE] ⟨1000, 1000, 1000, 1000⟩ = .ok f ∧ f.toNat = 59 := by
  have h : ([0xFA, 0x00, 0xCA, 0x00, 0xDE] : Bytes).length < 2 ^ 60 := by decide
  obtain ⟨hexact, -, hfits, -⟩ := fee_exact h ⟨1000, 1000, 1000, 1000⟩
  obtain ⟨f, hf⟩ := hfits.mpr (fits_iff.mpr (by decide))
  exact ⟨h, f, hf, hexact f hf⟩

end Rollup.Fee
