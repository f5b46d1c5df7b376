/-
Strings of bytes, and the numbers that they spell in big-endian order.

`bigEndian` writes a number into a field of fixed width, `minimal` writes it
without leading zero bytes (zero is the empty string), and `value` reads either
back. Every wire format of this library is built from these three.
-/

set_option autoImplicit false

namespace Rollup

/-- A string of bytes. -/
abbrev Bytes := List UInt8

namespace Bytes

/-- The number that a string of bytes spells, the first byte the most significant. -/
def value (bytes : Bytes) : Nat := bytes.foldl (fun n b => 256 * n + b.toNat) 0

/-- The low `width` bytes of `n`, the most significant first. -/
def bigEndian : (width : Nat) → (n : Nat) → Bytes
  | 0, _ => []
  | width + 1, n => bigEndian width (n / 256) ++ [UInt8.ofNat n]

/-- The bytes of `n` without leading zeros; none at all for zero. -/
def minimal (n : Nat) : Bytes :=
  if n = 0 then [] else minimal (n / 256) ++ [UInt8.ofNat n]
termination_by n

/-- The UTF-8 form of a text. -/
def ofText (s : List Char) : Bytes := s.flatMap String.utf8EncodeChar

@[simp] theorem length_bigEndian (width n : Nat) : (bigEndian width n).length = width := by
  induction width generalizing n with
  | zero => rfl
  | succ width ih => simp [bigEndian, ih]

@[simp] theorem value_append_singleton (bytes : Bytes) (b : UInt8) :
    value (bytes ++ [b]) = 256 * value bytes + b.toNat := by
  simp [value]

@[simp] theorem value_minimal (n : Nat) : value (minimal n) = n := by
  induction n using Nat.strongRecOn with
  | ind n ih =>
    rw [minimal]
    split
    · next h => simp [value, h]
    · next h => rw [value_append_singleton, ih (n / 256) (by omega)]; simp; omega

end Bytes

end Rollup
