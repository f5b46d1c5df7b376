/-
Decoding UTF-8.

A machine takes one byte at a time. It knows how many continuation bytes are
still owed and in which range the next one must lie, and refuses at the first
byte that no well-formed text could go on with. `decode?` gives up there;
`decodeLossy` writes the replacement character for the bytes of the unfinished
character and begins again with the byte that was refused.
-/
import Rollup.Bytes

set_option autoImplicit false

namespace Rollup.Text

/-- What is owed in the middle of a character. -/
structure Pending where
  /-- The bits of the character read so far. -/
  bits : Nat
  /-- How many bytes are still to come. -/
  owed : Nat
  /-- The least value of the next byte. -/
  low : Nat
  /-- The greatest value of the next byte. -/
  high : Nat
  deriving DecidableEq, Repr

/-- The outcome of a byte. -/
inductive Utf8Step where
  /-- It completes a character. -/
  | done (c : Char)
  /-- The character goes on. -/
  | more (p : Pending)
  /-- No text goes on like this. -/
  | refused
  deriving DecidableEq, Repr

/-- The first byte of a character. -/
def utf8First (b : UInt8) : Utf8Step :=
  let n := b.toNat
  if n < 0x80 then .done (Char.ofNat n)
  -- Two bytes would be one too many for what begins with `C0` or `C1`.
  else if n < 0xC2 then .refused
  else if n < 0xE0 then .more ⟨n - 0xC0, 1, 0x80, 0xBF⟩
  else if n < 0xF0 then
    -- The second byte keeps out what fewer bytes can tell, and the surrogates.
    .more ⟨n - 0xE0, 2, if n = 0xE0 then 0xA0 else 0x80, if n = 0xED then 0x9F else 0xBF⟩
  else if n < 0xF5 then
    -- So it does here, and it keeps out what is beyond the last character.
    .more ⟨n - 0xF0, 3, if n = 0xF0 then 0x90 else 0x80, if n = 0xF4 then 0x8F else 0xBF⟩
  else .refused

/-- A further byte of a character. -/
def utf8Next (p : Pending) (b : UInt8) : Utf8Step :=
  let n := b.toNat
  if n < p.low ∨ p.high < n then .refused
  else
    let bits := 64 * p.bits + (n - 0x80)
    if p.owed = 1 then .done (Char.ofNat bits) else .more ⟨bits, p.owed - 1, 0x80, 0xBF⟩

/-- What stands for bytes that are no character. -/
def replacement : Char := Char.ofNat 0xFFFD

/-- One byte for the decoder that never fails: the characters written so far, the last one
first, and the character in progress. -/
def lossyStep : List Char × Option Pending → UInt8 → List Char × Option Pending
  | (out, none), b =>
    match utf8First b with
    | .done c => (c :: out, none)
    | .more p => (out, some p)
    | .refused => (replacement :: out, none)
  | (out, some p), b =>
    match utf8Next p b with
    | .done c => (c :: out, none)
    | .more p => (out, some p)
    | .refused =>
      match utf8First b with
      | .done c => (c :: replacement :: out, none)
      | .more p => (replacement :: out, some p)
      | .refused => (replacement :: replacement :: out, none)

/-- Decodes bytes, with a replacement character for each stretch that is no UTF-8. -/
def decodeLossy (bytes : Bytes) : List Char :=
  match bytes.foldl lossyStep ([], none) with
  | (out, none) => out.reverse
  | (out, some _) => (replacement :: out).reverse

/-- One byte for the strict decoder. -/
def strictStep : List Char × Option Pending → UInt8 → Option (List Char × Option Pending)
  | (out, pending), b =>
    match (match pending with | none => utf8First b | some p => utf8Next p b) with
    | .done c => some (c :: out, none)
    | .more p => some (out, some p)
    | .refused => none

/-- Decodes bytes that are UTF-8 throughout. -/
def decode? (bytes : Bytes) : Option (List Char) :=
  match bytes.foldlM strictStep ([], none) with
  | some (out, none) => some out.reverse
  | _ => none

end Rollup.Text
