/-
Escapes in addresses.

A character that cannot stand in a part of an address is written as its UTF-8
bytes, each one as a percent sign with two hexadecimal digits in capitals. Which
characters those are differs from part to part; in every part they are the control
characters and all behind ASCII. `unescape` reads escapes back as bytes, and leaves
a percent sign as it is that no two digits follow.
-/
import Rollup.Bytes.Hex

set_option autoImplicit false

namespace Rollup.Url

/-! ## What is escaped -/

/-- Whether a character is escaped in every part. -/
def isEscapedAnywhere (c : Char) : Bool := c.toNat < 0x20 || 0x7F ≤ c.toNat

/-- Whether a character is escaped behind the number sign. -/
def isEscapedInFragment (c : Char) : Bool :=
  isEscapedAnywhere c || c ∈ [' ', '"', '<', '>', '\x60']

/-- Whether a character is escaped in a path. -/
def isEscapedInPath (c : Char) : Bool :=
  isEscapedInFragment c || c ∈ ['#', '?', '\x7b', '\x7d']

/-- Whether a character is escaped in the name of a user and in a password. -/
def isEscapedInUser (c : Char) : Bool :=
  isEscapedInPath c || c ∈ ['/', ':', ';', '=', '@', '[', '\\', ']', '^', '|']

/-- Whether a character is escaped in a query. -/
def isEscapedInQuery (c : Char) : Bool :=
  isEscapedAnywhere c || c ∈ [' ', '"', '#', '<', '>', '\'']

/-! ## Escaping and reading back -/

/-- A digit of an escape. -/
def escapeDigit (d : Nat) : Char := (Text.digitChar d).toUpper

/-- The escape of a byte. -/
def escapeByte (b : UInt8) : List Char :=
  ['%', escapeDigit (b.toNat / 16), escapeDigit (b.toNat % 16)]

/-- A text with escapes for the characters that need one. -/
def escape (isEscaped : Char → Bool) (text : List Char) : List Char :=
  text.flatMap fun c => if isEscaped c then (Bytes.ofText [c]).flatMap escapeByte else [c]

/-- What has been read of escapes: the bytes, the last one first, and the characters of an escape
that is not complete, the last one first too. -/
structure Unescaping where
  bytes : Bytes
  pending : Bytes

namespace Unescaping

/-- Takes a byte. -/
def push (s : Unescaping) (b : UInt8) : Unescaping :=
  match s.pending with
  | [] => if b = 0x25 then ⟨s.bytes, [b]⟩ else ⟨b :: s.bytes, []⟩
  | [sign] =>
    if (Hex.digit? b).isSome then ⟨s.bytes, [b, sign]⟩
    else if b = 0x25 then ⟨sign :: s.bytes, [b]⟩
    else ⟨b :: sign :: s.bytes, []⟩
  | high :: rest =>
    -- A sign with two digits is one byte; without them it stands for itself.
    match Hex.digit? high, Hex.digit? b with
    | some h, some l => ⟨(16 * h + l) :: s.bytes, []⟩
    | _, _ =>
      if b = 0x25 then ⟨high :: (rest ++ s.bytes), [b]⟩ else ⟨b :: high :: (rest ++ s.bytes), []⟩

end Unescaping

/-- The bytes of a text with its escapes read. -/
def unescape (text : List Char) : Bytes :=
  let s := (Bytes.ofText text).foldl Unescaping.push ⟨[], []⟩
  (s.pending ++ s.bytes).reverse

end Rollup.Url
