/-
Unsigned quantities as text.

A quantity is a numeral whose radix its first two characters may name: `0x`,
`0o` or `0b`, in either case, for sixteen, eight or two, and ten otherwise. The
digits may be of either case, and underscores may stand anywhere between, before
and behind them. A text without a single digit reads as zero. The number must
fit into the width that is asked for.
-/
import Rollup.Powers
import Rollup.Text.Numeral

set_option autoImplicit false

namespace Rollup.Quantity

/-- The radix that the start of a text names, and the rest of the text. -/
def radix : List Char → Nat × List Char
  | '0' :: 'x' :: rest => (16, rest)
  | '0' :: 'X' :: rest => (16, rest)
  | '0' :: 'o' :: rest => (8, rest)
  | '0' :: 'O' :: rest => (8, rest)
  | '0' :: 'b' :: rest => (2, rest)
  | '0' :: 'B' :: rest => (2, rest)
  | text => (10, text)

/-- Takes one more character into a number that must stay below `limit`. -/
def push (radix limit n : Nat) (c : Char) : Option Nat :=
  if c = '_' then some n
  else match Text.digit? c with
    | none => none
    | some d =>
      if d < radix ∧ radix * n + d < limit then some (radix * n + d) else none

/-- Reads digits of a radix, with underscores among them, as a number below `limit`. -/
def readDigits (radix limit : Nat) (text : List Char) : Option Nat :=
  text.foldlM (push radix limit) 0

/-- Reads a quantity of at most `bits` bits. -/
def read (bits : Nat) (text : List Char) : Option Nat :=
  let (radix, digits) := radix text
  readDigits radix (2 ^ bits) digits

end Rollup.Quantity
