/-
Addresses of accounts and contracts: 20 bytes.

An address has three spellings. `parse` accepts any hexadecimal text of 20 bytes,
`lower` writes it in lower case, and `checksum` in mixed case: a letter is upper
case exactly if the digit at its place in the Keccak-256 hash of the lower-case
digits is eight or more, so that most slips of the pen show.
-/
import Rollup.Keccak
import Rollup.Word

set_option autoImplicit false

namespace Rollup

/-- An address, as the number that its 20 bytes spell. -/
structure Address where
  /-- The address as a number. -/
  bits : BitVec 160
  deriving DecidableEq, Repr

namespace Address

/-- The address whose 20 bytes spell a number. -/
def ofNat (n : Nat) : Address := ⟨BitVec.ofNat 160 n⟩

/-- The zero address. -/
def zero : Address := ofNat 0

instance : Inhabited Address := ⟨zero⟩

/-- The 20 bytes of an address. -/
def bytes (a : Address) : Bytes := Bytes.bigEndian 20 a.bits.toNat

/-- The address of 20 bytes. -/
def ofBytes (bytes : Bytes) : Address := ofNat (Bytes.value bytes)

/-- Addresses compare as their bytes do, which is as numbers. -/
def le (a b : Address) : Bool := a.bits.toNat ≤ b.bits.toNat

/-- Reads 40 hexadecimal digits, with or without `0x`. -/
def parse (text : List Char) : Except Hex.Error Address :=
  (Hex.decodeExact 20 text).map ofBytes

/-- The 40 digits in lower case. -/
def digits (a : Address) : String := Hex.encode a.bytes

/-- The address in lower case behind `0x`. -/
def lower (a : Address) : String := "0x" ++ a.digits

/-- The letter `c` in upper case where the hash has the digit `d` at its place. -/
def markCase (c d : Char) : Char :=
  match Text.digit? d with
  | some n => if 8 ≤ n then c.toUpper else c
  | none => c

/-- The address in mixed case behind `0x`. -/
def checksum (a : Address) : String :=
  let letters := a.bytes.flatMap Hex.pair
  let hash := (Keccak.hash (Bytes.ofText letters)).flatMap Hex.pair
  "0x" ++ String.ofList (List.zipWith markCase letters hash)

end Address

end Rollup
