/-
The values in a JSON text that hold no others: words, numbers and strings.

Strings are read in two strengths. A reader that wants the content needs every
surrogate to be one half of a pair; one that only skips a value does not.
-/
import Rollup.Json.Number

set_option autoImplicit false

namespace Rollup.Json

/-- A value that holds no others. -/
inductive Scalar where
  | null
  | bool (b : Bool)
  | number (n : Number)
  | string (content : List Char)
  deriving DecidableEq, Repr

/-- The quotation mark around strings. -/
def quoteMark : Char := Char.ofNat 0x22

/-! ## Strings -/

/-- The value of a hexadecimal digit. -/
def hexDigit? (c : Char) : Option Nat := (Text.digit? c).filter (· < 16)

/-- Takes the four digits of a code unit off a text. Four bytes are taken before they are
judged. -/
def takeUnit : Reader Nat := fun text =>
  if !hasBytes 4 text then endsEarly
  else match (text.take 4).mapM hexDigit? with
    | some digits =>
      if digits.length = 4 then .ok (Text.value 16 digits, text.drop 4)
      else malformed (dropBytes 4 text)
    | none => malformed (dropBytes 4 text)

/-- Whether a code unit is the first half of a surrogate pair. -/
def isHigh (unit : Nat) : Bool := 0xD800 ≤ unit && unit ≤ 0xDBFF

/-- Whether a code unit is the second half of a surrogate pair. -/
def isLow (unit : Nat) : Bool := 0xDC00 ≤ unit && unit ≤ 0xDFFF

/-- Takes the second half of a surrogate pair off a text and returns the character of both. -/
def takeSecondHalf (high : Nat) : Reader Char
  | [] => endsEarly
  | '\\' :: [] => endsEarly
  | '\\' :: 'u' :: rest => do
    let (low, rest) ← takeUnit rest
    if isLow low then .ok (Char.ofNat (0x10000 + 0x400 * (high - 0xD800) + (low - 0xDC00)), rest)
    else malformed rest
  -- The first half of a pair has to be followed by an escape for the second one.
  | '\\' :: rest => malformed (dropBytes 1 rest)
  | rest => malformed (dropBytes 1 rest)

/-- Takes the character off a text whose code unit stands at the front. One who skips takes the
unit for what it is. -/
def takeCodePoint (a : Attention) : Reader Char := fun text => do
  let (unit, rest) ← takeUnit text
  match a with
  | .skipped => .ok (Char.ofNat unit, rest)
  | .wanted =>
    if isLow unit then malformed rest
    else if isHigh unit then takeSecondHalf unit rest
    else .ok (Char.ofNat unit, rest)

/-- Takes what follows a backslash off a text and returns the character that it stands for. -/
def takeEscape (a : Attention) : Reader Char
  | [] => endsEarly
  | c :: rest =>
    if c = 'u' then takeCodePoint a rest
    else if c = quoteMark || c = '\\' || c = '/' then .ok (c, rest)
    else if c = 'b' then .ok (Char.ofNat 0x08, rest)
    else if c = 'f' then .ok (Char.ofNat 0x0C, rest)
    else if c = 'n' then .ok ('\n', rest)
    else if c = 'r' then .ok ('\r', rest)
    else if c = 't' then .ok ('\t', rest)
    else malformed (dropBytes 1 (c :: rest))

/-- Takes the content of a string and the quotation mark behind it off a text, onto the characters
`before`, the last one first. -/
def takeContent (a : Attention) : Fuel → (before : List Char) → Reader (List Char)
  | [], _, _ => endsEarly
  | _ :: _, _, [] => endsEarly
  | _ :: fuel, before, c :: rest =>
    if c = quoteMark then .ok (before.reverse, rest)
    else if c = '\\' then do
      let (c, rest) ← takeEscape a rest
      takeContent a fuel (c :: before) rest
    -- Control characters have to be escaped.
    else if c.toNat < 0x20 then malformed rest
    else takeContent a fuel (c :: before) rest

/-- Takes a string off a text, of which the first quotation mark has been taken. -/
def takeString (a : Attention) : Reader (List Char) := fun text =>
  takeContent a (fuelFor text) [] text

/-! ## Single values -/

/-- Takes the letters of a word off a text. -/
def takeLetters : (letters : List Char) → List Char → Except Stop (List Char)
  | [], text => .ok text
  | _ :: _, [] => endsEarly
  | letter :: letters, c :: rest =>
    if c = letter then takeLetters letters rest else malformed (dropBytes 1 (c :: rest))

/-- Takes a value that holds no others off the front of a text without white space before it. -/
def Scalar.take (a : Attention) : Reader Scalar
  | [] => endsEarly
  | c :: rest =>
    if c = quoteMark then (takeString a rest).map fun (content, rest) => (.string content, rest)
    else if c = '-' || Text.isDecimal c then
      (Number.take a (c :: rest)).map fun (n, rest) => (.number n, rest)
    else if c = 'n' then (takeLetters ['u', 'l', 'l'] rest).map fun rest => (.null, rest)
    else if c = 't' then (takeLetters ['r', 'u', 'e'] rest).map fun rest => (.bool true, rest)
    else if c = 'f' then
      (takeLetters ['a', 'l', 's', 'e'] rest).map fun rest => (.bool false, rest)
    else malformed (c :: rest)

end Rollup.Json
