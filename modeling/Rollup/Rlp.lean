/-
Recursive length encoding of byte strings and of lists.

A single byte below `0x80` stands for itself. Any other string is its bytes
behind a header with its length, and a list is the encodings of its items behind
a header with their total length. A length up to 55 is added to the first byte of
the header; a longer one follows it as a number without leading zeros.

`Item.encode` is the definition by recursion on nested items. Beside it stand the
lengths that encodings have, computed without writing a byte, which a writer
needs that puts the header of a list before its items.
-/
import Rollup.Bytes

set_option autoImplicit false

namespace Rollup.Rlp

/-- The longest length that fits into the first byte of a header. -/
def shortLimit : Nat := 55

/-- The first byte of the header of an empty string. -/
def stringOffset : Nat := 0x80

/-- The first byte of the header of an empty list. -/
def listOffset : Nat := 0xC0

/-- The header in front of a payload of so many bytes. -/
def header (offset length : Nat) : Bytes :=
  if length ≤ shortLimit then [UInt8.ofNat (offset + length)]
  else
    let size := Bytes.minimal length
    UInt8.ofNat (offset + shortLimit + size.length) :: size

/-- The encoding of a byte string. -/
def encodeString (bytes : Bytes) : Bytes :=
  match bytes with
  | [b] => if b < 0x80 then [b] else header stringOffset 1 ++ [b]
  | bytes => header stringOffset bytes.length ++ bytes

/-- The encoding of a number: of its bytes without leading zeros. -/
def encodeNat (n : Nat) : Bytes := encodeString (Bytes.minimal n)

/-! ## Nested items -/

/-- A byte string or a list of items. -/
inductive Item where
  | string (bytes : Bytes)
  | list (items : List Item)

mutual

/-- The encoding of an item. -/
def Item.encode : Item → Bytes
  | .string bytes => encodeString bytes
  | .list items =>
    let payload := encodeItems items
    header listOffset payload.length ++ payload

/-- The encodings of items, one behind the other. -/
def encodeItems : List Item → Bytes
  | [] => []
  | item :: rest => item.encode ++ encodeItems rest

end

/-- A number as an item. -/
def Item.ofNat (n : Nat) : Item := .string (Bytes.minimal n)

/-! ## Lengths -/

/-- How many bytes a number has without leading zeros. -/
def byteCount (n : Nat) : Nat := if n = 0 then 0 else byteCount (n / 256) + 1
termination_by n

/-- How many bytes the header of a payload of so many bytes has. -/
def headerLength (length : Nat) : Nat :=
  if length ≤ shortLimit then 1 else 1 + byteCount length

/-- How many bytes the encoding of a byte string has. -/
def stringLength (bytes : Bytes) : Nat :=
  match bytes with
  | [b] => if b < 0x80 then 1 else 2
  | bytes => headerLength bytes.length + bytes.length

/-- How many bytes the encoding of a number below `2 ^ 440` has. -/
def natLength (n : Nat) : Nat := if n < 0x80 then 1 else 1 + byteCount n

theorem length_minimal (n : Nat) : (Bytes.minimal n).length = byteCount n := by
  induction n using Nat.strongRecOn with
  | ind n ih =>
    rw [Bytes.minimal, byteCount]
    split
    · rfl
    · simp [ih (n / 256) (by omega)]

@[simp] theorem length_header (offset length : Nat) :
    (header offset length).length = headerLength length := by
  unfold header headerLength
  split
  · rfl
  · simp [length_minimal, Nat.add_comm]

end Rollup.Rlp
