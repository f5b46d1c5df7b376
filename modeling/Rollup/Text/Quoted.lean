/-
Quoted text: a text between quotes in which nothing is left to the eye.

Messages show the texts they complain about in this form. The quote and the
backslash are escaped, so are the tab, the line feed, the carriage return and
the null character, and every character that cannot be shown as it is becomes
its code point in `\u` form, lower case and without padding. A quoted character
stands between single quotes and escapes those instead of double ones.
-/
import Rollup.Text.Printable
import Rollup.Text.Numeral

set_option autoImplicit false

namespace Rollup.Text

/-- The quotes that a piece of quoted text stands between. -/
inductive QuoteMark where
  | single
  | double
  deriving DecidableEq, Repr

/-- The quote as a character. -/
def QuoteMark.char : QuoteMark → Char
  | .single => Char.ofNat 0x27
  | .double => Char.ofNat 0x22

/-- The code point of a character in `\u` form. -/
def codePointEscape (c : Char) : List Char :=
  "\\u\x7b".toList ++ numeral 16 c.toNat ++ ['\x7d']

/-- A character as it stands within quotes. -/
def escape (mark : QuoteMark) (c : Char) : List Char :=
  if c.toNat = 0 then ['\\', '0']
  else if c.toNat = 0x09 then ['\\', 't']
  else if c.toNat = 0x0A then ['\\', 'n']
  else if c.toNat = 0x0D then ['\\', 'r']
  else if c = '\\' ∨ c = mark.char then ['\\', c]
  else if isExtending c || !isPrintable c then codePointEscape c
  else [c]

/-- A text between double quotes. -/
def quote (s : List Char) : List Char :=
  QuoteMark.double.char :: (s.flatMap (escape .double) ++ [QuoteMark.double.char])

/-- A string between double quotes. -/
def quoted (s : String) : String := String.ofList (quote s.toList)

/-- A character between single quotes. -/
def quotedChar (c : Char) : String :=
  String.ofList (QuoteMark.single.char :: (escape .single c ++ [QuoteMark.single.char]))

end Rollup.Text
