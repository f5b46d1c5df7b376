/-
The binary interface of the fee calculator, a contract that computes the data fee
on the chain.

A call is the selector of the function and its five arguments. The encoded
transaction has no fixed length, so its place holds the offset of its tail,
which is its length and its bytes, filled up with zeros to whole words. The result
is one word, and what follows it is ignored.
-/
import Rollup.Fee.Parameters

set_option autoImplicit false

namespace Rollup.Chain.Calculator

/-- The first four bytes of a call of the function. -/
def selector : Bytes := [0xC3, 0x4C, 0xC5, 0x61]

/-- The number of bytes in a word. -/
def wordSize : Nat := 32

/-- A number as a word of a call. -/
def word (n : Nat) : Bytes := Bytes.bigEndian wordSize n

/-- The zeros that fill a byte string up to whole words. -/
def filling (length : Nat) : Bytes := List.replicate ((wordSize - length % wordSize) % wordSize) 0

/-- A byte string of any length: its length in a word, and its bytes in whole words. -/
def tail (data : Bytes) : Bytes := word data.length ++ data ++ filling data.length

/-- A call for the fee of an encoded transaction. -/
def call (data : Bytes) (p : Fee.Parameters) : Bytes :=
  selector ++ word (5 * wordSize) ++ p.l1BaseFee.bytes ++ p.blobBaseFee.bytes ++
    p.baseFeeScalar.bytes ++ p.blobBaseFeeScalar.bytes ++ tail data

/-- The fee that a result holds; less than a word holds none. -/
def result? (output : Bytes) : Option Word :=
  if output.length < wordSize then none else some (.ofBytes (output.take wordSize))

end Rollup.Chain.Calculator
