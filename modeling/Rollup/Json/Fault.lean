/-
What can be wrong with a JSON text, and where reading stops then.

A text is read from left to right, one byte after the other, and the first
problem wins. A reader that gives up says what is wrong and which part of the
text it has not taken yet. Of a character of several bytes only the first may have been
taken; such a character stays in front of the rest, where it is in the way like the bytes that
are left of it.
-/

set_option autoImplicit false

namespace Rollup.Json

/-- What can be wrong with a JSON text. -/
inductive Fault where
  /-- The text ends in the middle of a value. -/
  | endsEarly
  /-- The text breaks the rules of JSON. -/
  | malformed
  /-- The text is JSON as far as it was read, but not of the expected form. -/
  | mismatch
  deriving DecidableEq, Repr

/-- Why reading stopped, and what was left of the text. -/
structure Stop where
  fault : Fault
  rest : List Char
  deriving DecidableEq, Repr

/-- A reader of values of type `α` at the front of a text. -/
abbrev Reader (α : Type) := List Char → Except Stop (α × List Char)

/-- Stops because the text is at its end. -/
def endsEarly {α : Type} : Except Stop α := .error ⟨.endsEarly, []⟩

/-- Stops because the text breaks the rules, in front of `rest`. -/
def malformed {α : Type} (rest : List Char) : Except Stop α := .error ⟨.malformed, rest⟩

/-- Stops because a value has not the expected form, in front of `rest`. -/
def mismatch {α : Type} (rest : List Char) : Except Stop α := .error ⟨.mismatch, rest⟩

/-- The white space of JSON. -/
def isGap (c : Char) : Bool := c = ' ' || c = '\t' || c = '\n' || c = '\r'

/-- A text without the white space in front of it. -/
def skipGap (text : List Char) : List Char := text.dropWhile isGap

/-- A text without its first `n` bytes. -/
def dropBytes : (n : Nat) → List Char → List Char
  | 0, text => text
  | _, [] => []
  | n + 1, c :: rest =>
    if c.utf8Size ≤ n + 1 then dropBytes (n + 1 - c.utf8Size) rest else c :: rest

/-- Whether a text has at least `n` bytes. -/
def hasBytes (n : Nat) (text : List Char) : Bool :=
  n ≤ (text.take n).foldl (fun size c => size + c.utf8Size) 0

/-- What bounds the steps of a reader: one for each character in the list. -/
abbrev Fuel := List Char

/-- Fuel for a reader whose every step but the last takes a character off a text. It is the text
itself with one more in front, so that nothing has to be counted. -/
def fuelFor (text : List Char) : Fuel := ' ' :: text

/-- How closely a value is looked at: its content is wanted, or the value is only skipped. -/
inductive Attention where
  | wanted
  | skipped
  deriving DecidableEq, Repr

end Rollup.Json
