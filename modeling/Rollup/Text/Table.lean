/-
Tables of characters, written down in lines.

A line holds entries with a blank between them, and numbers are hexadecimal. The
entry `A1+2D6` stands for the code point A1 and for the 2D6 ones behind it, and
`AD` for that one alone. `ranges` reads a table as closed ranges of code points.
-/
import Rollup.Text.Numeral
import Rollup.Text.Parts

set_option autoImplicit false

namespace Rollup.Text

/-- Whether one of the closed ranges holds `n`. -/
def inRanges (ranges : List (Nat × Nat)) (n : Nat) : Bool :=
  ranges.any fun r => r.1 ≤ n && n ≤ r.2

namespace Table

/-- The number that hexadecimal digits spell. -/
def number (spelled : List Char) : Nat := ofDigits 16 (spelled.filterMap digit?)

/-- The entries of lines. -/
def entries (lines : List String) : List (List Char) :=
  lines.flatMap fun line => parts ' ' line.toList

/-- A number, and how many more follow it. -/
def run (entry : List Char) : Nat × Nat :=
  match parts '+' entry with
  | [first, more] => (number first, number more)
  | _ => (number entry, 0)

/-- The closed ranges that lines stand for. -/
def ranges (lines : List String) : List (Nat × Nat) :=
  (entries lines).map fun entry => ((run entry).1, (run entry).1 + (run entry).2)

end Table

end Rollup.Text
