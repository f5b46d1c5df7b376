/-
Hexadecimal text of byte strings.

`decode` reads two digits, in either case, as one byte. The text may begin with
one `0x` or `0X`. Three things can be wrong with a text, and they are looked for
in this order: its length is odd (the marker counts, which is even itself), its
length is not the one that was asked for, or one of its bytes is no digit. The
text is taken as its UTF-8 bytes, so that a position counts bytes and the
offending character is a byte shown as the character of that code point.
-/
import Rollup.Bytes
import Rollup.Text.Quoted

set_option autoImplicit false

namespace Rollup.Hex

/-- Why a text is not the hexadecimal form of a byte string. -/
inductive Error where
  /-- An odd number of digits pairs up to no bytes. -/
  | oddLength
  /-- The text stands for another number of bytes than was asked for. -/
  | wrongLength
  /-- The byte at a position, counted behind the marker, is no digit. -/
  | badDigit (byte : UInt8) (position : Nat)
  deriving DecidableEq, Repr

/-- What is wrong, in words. -/
def Error.message : Error → String
  | .oddLength => "odd number of digits"
  | .wrongLength => "invalid string length"
  | .badDigit byte position =>
    "invalid character " ++ Text.quotedChar (Char.ofNat byte.toNat) ++ " at position " ++
      Text.decimal position

/-- The value of a byte that is an ASCII hexadecimal digit. -/
def digit? (b : UInt8) : Option UInt8 :=
  if 0x30 ≤ b ∧ b ≤ 0x39 then some (b - 0x30)
  else if 0x61 ≤ b ∧ b ≤ 0x66 then some (b - 0x61 + 10)
  else if 0x41 ≤ b ∧ b ≤ 0x46 then some (b - 0x41 + 10)
  else none

/-- Drops one leading `0x` or `0X`. -/
def dropMarker : Bytes → Bytes
  | 0x30 :: 0x78 :: rest => rest
  | 0x30 :: 0x58 :: rest => rest
  | text => text

/-- Joins the digits of a text two by two. `position` is where the text stands and `before`
are the bytes read so far, the last one first. -/
def pairs (position : Nat) (before : Bytes) : Bytes → Except Error Bytes
  | high :: low :: rest =>
    match digit? high, digit? low with
    | some h, some l => pairs (position + 2) ((16 * h + l) :: before) rest
    | none, _ => .error (.badDigit high position)
    | some _, none => .error (.badDigit low (position + 1))
  | _ => .ok before.reverse

/-- Reads the hexadecimal form of a byte string of any length. -/
def decode (text : List Char) : Except Error Bytes :=
  let bytes := Bytes.ofText text
  if bytes.length % 2 = 1 then .error .oddLength else pairs 0 [] (dropMarker bytes)

/-- Reads the hexadecimal form of a string of exactly `length` bytes. -/
def decodeExact (length : Nat) (text : List Char) : Except Error Bytes :=
  let bytes := Bytes.ofText text
  if bytes.length % 2 = 1 then .error .oddLength
  else if (dropMarker bytes).length ≠ 2 * length then .error .wrongLength
  else pairs 0 [] (dropMarker bytes)

/-- The two digits of a byte, in lower case. -/
def pair (b : UInt8) : List Char :=
  [Text.digitChar (b.toNat / 16), Text.digitChar (b.toNat % 16)]

/-- The hexadecimal form of a byte string, in lower case and without a marker. -/
def encode (bytes : Bytes) : String := String.ofList (bytes.flatMap pair)

end Rollup.Hex
