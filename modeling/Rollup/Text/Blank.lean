/-
White space, and cutting it off at both ends of a text.

Texts that people type or that come out of files carry padding: blanks around an
address, a line feed after a price. `trim` removes exactly the padding, that is
the longest run of blanks at each end, and leaves everything between untouched.

A blank is a character with the Unicode property `White_Space`. The zero width
space and the byte order mark are not blanks, although they show nothing.
-/

set_option autoImplicit false

namespace Rollup.Text

/-- The characters of the Unicode property `White_Space`. -/
def isBlank (c : Char) : Bool :=
  let n := c.toNat
  (9 ≤ n && n ≤ 13) || n == 0x20 || n == 0x85 || n == 0xA0 || n == 0x1680 ||
    (0x2000 ≤ n && n ≤ 0x200A) || n == 0x2028 || n == 0x2029 || n == 0x202F ||
    n == 0x205F || n == 0x3000

/-- A text of blanks only; the empty text is one. -/
def isAllBlank (s : List Char) : Bool := s.all isBlank

/-- Cuts the blanks off the front. -/
def trimFront (s : List Char) : List Char := s.dropWhile isBlank

/-- Cuts the blanks off the back. -/
def trimBack (s : List Char) : List Char := (s.reverse.dropWhile isBlank).reverse

/-- Cuts the blanks off both ends. -/
def trim (s : List Char) : List Char := trimBack (trimFront s)

/-- The first run of blanks is all that `trimFront` cuts off. -/
theorem takeWhile_append_trimFront (s : List Char) :
    s.takeWhile isBlank ++ trimFront s = s := List.takeWhile_append_dropWhile

end Rollup.Text
