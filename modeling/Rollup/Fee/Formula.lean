/-
The data fee of an encoded transaction.

The fee follows the size of the transaction as calldata, in which a zero byte
costs four and any other byte sixteen, and the price of a unit, which is made of
the base fee and the blob base fee with their scalars:

  `size * (16 * l1BaseFee * baseFeeScalar + blobBaseFee * blobBaseFeeScalar) / 16000000`

`fee` computes it in words and stops with an overflow at the first product or sum
that does not fit. `exactFee` is the same quotient of unbounded numbers.
-/
import Rollup.Fee.Parameters

set_option autoImplicit false

namespace Rollup.Fee

/-- The calldata gas of a zero byte. -/
def zeroByteCost : Nat := 4

/-- The calldata gas of a byte that is not zero. -/
def nonZeroByteCost : Nat := 16

/-- The scale of the fixed point scalars. -/
def scalarUnit : Nat := 1000000

/-- The calldata gas of one byte. -/
def byteCost (b : UInt8) : Nat := if b = 0 then zeroByteCost else nonZeroByteCost

/-- The size of a byte string in calldata gas, counted in a 64-bit number. -/
def size (bytes : Bytes) : UInt64 :=
  bytes.foldl (fun n b => n + UInt64.ofNat (byteCost b)) 0

/-- The price of a unit of size, times `16 * scalarUnit`, in words. -/
def scaledPrice (p : Parameters) : Except ParameterError Word :=
  let calldata := do
    let fee ← Word.mul? p.l1BaseFee (BitVec.ofNat 256 nonZeroByteCost)
    -- Every product is checked, even if another factor is zero.
    Word.mul? fee p.baseFeeScalar
  let blob := Word.mul? p.blobBaseFee p.blobBaseFeeScalar
  match calldata, blob with
  | some calldata, some blob =>
    match Word.add? calldata blob with
    | some sum => .ok sum
    | none => .error .overflow
  | _, _ => .error .overflow

/-- The divisor of the fee. -/
def divisor : Nat := scalarUnit * nonZeroByteCost

/-- The data fee of a byte string in wei. -/
def fee (bytes : Bytes) (p : Parameters) : Except ParameterError Word := do
  let price ← scaledPrice p
  match Word.mul? price (BitVec.ofNat 256 (size bytes).toNat) with
  | some product => .ok (product / BitVec.ofNat 256 divisor)
  | none => .error .overflow

/-! ## The exact fee -/

/-- The size of a byte string in calldata gas. -/
def exactSize (bytes : Bytes) : Nat :=
  zeroByteCost * bytes.countP (· = 0) + nonZeroByteCost * bytes.countP (· ≠ 0)

/-- The price of a unit of size, times `16 * scalarUnit`. -/
def exactPrice (p : Parameters) : Nat :=
  nonZeroByteCost * p.l1BaseFee.toNat * p.baseFeeScalar.toNat +
    p.blobBaseFee.toNat * p.blobBaseFeeScalar.toNat

/-- The fee over unbounded numbers, rounded down. -/
def exactFee (bytes : Bytes) (p : Parameters) : Nat := exactSize bytes * exactPrice p / divisor

end Rollup.Fee
