/-
Words of 256 bits, the unit of contract storage and of amounts in wei.

A word is a number below `2 ^ 256` and a string of 32 bytes at once. Arithmetic
on amounts is checked: `add?` and `mul?` have no value where the exact result
does not fit, and never wrap around.
-/
import Rollup.Bytes.Hex
import Rollup.Powers

set_option autoImplicit false

namespace Rollup

/-- A word of 256 bits. -/
abbrev Word := BitVec 256

namespace Word

/-- The word of a number, if it fits. -/
def ofNat? (n : Nat) : Option Word := if n < 2 ^ 256 then some (BitVec.ofNat 256 n) else none

/-- The sum, if it fits. -/
def add? (a b : Word) : Option Word := ofNat? (a.toNat + b.toNat)

/-- The product, if it fits. -/
def mul? (a b : Word) : Option Word := ofNat? (a.toNat * b.toNat)

/-- The 32 bytes of a word, the most significant first. -/
def bytes (w : Word) : Bytes := Bytes.bigEndian 32 w.toNat

/-- The word that a string of bytes spells; of more than 32 bytes the last 32 count. -/
def ofBytes (bytes : Bytes) : Word := BitVec.ofNat 256 (Bytes.value bytes)

/-- All 64 hexadecimal digits of a word, behind `0x`. -/
def padded (w : Word) : String := "0x" ++ Hex.encode w.bytes

/-- The hexadecimal numeral of a word behind `0x`, without leading zeros. -/
def quantity (w : Word) : String := "0x" ++ Text.hexadecimal w.toNat

/-- The decimal numeral of a word. -/
def decimal (w : Word) : String := Text.decimal w.toNat

theorem toNat_of_ofNat? {n : Nat} {w : Word} (h : ofNat? n = some w) : w.toNat = n := by
  unfold ofNat? at h
  split at h
  · next hn =>
    obtain rfl := Option.some.inj h
    simpa using Nat.mod_eq_of_lt hn
  · simp at h

theorem ofNat?_eq_none {n : Nat} : ofNat? n = none ↔ 2 ^ 256 ≤ n := by
  simp [ofNat?]

@[simp] theorem ofNat?_toNat (w : Word) : ofNat? w.toNat = some w := by
  simp [ofNat?, w.isLt]

end Word

end Rollup
