/-
Hosts that are numbers.

A short address has 32 bits. It is written as up to four numbers with points
between them, of which all but the last are a byte each and the last is all that
is left. Each may be decimal, octal with a leading zero, or hexadecimal. A long
address has 128 bits, written as eight groups of hexadecimal digits with colons
between them; two colons stand for as many groups of zero as are missing, and the
last two groups may be written as a short address of four plain bytes.
-/
import Rollup.Powers
import Rollup.Text.Numeral
import Rollup.Text.Parts

set_option autoImplicit false

namespace Rollup.Url

/-- An address of 32 bits. -/
abbrev ShortAddress := BitVec 32

/-- An address of 128 bits. -/
abbrev LongAddress := BitVec 128

/-- The value of a text of digits in a radix; none, if a character is no such digit. -/
def readIn? (radix : Nat) (text : List Char) : Option Nat :=
  (text.mapM fun c => (Text.digit? c).filter (· < radix)).map (Text.value radix)

/-- The value of a plain byte: decimal, and without zeros in front. -/
def plainByte? (text : List Char) : Option Nat :=
  match text with
  | '0' :: _ :: _ => none
  | text => (Text.readDecimal? text).filter (· < 2 ^ 8)

/-- The bytes of an address that is written as four plain ones. -/
def plainBytes? (text : List Char) : Option (List Nat) :=
  let parts := Text.parts '.' text
  if parts.length = 4 then parts.mapM plainByte? else none

namespace ShortAddress

/-- Reads one of the numbers. -/
def number? : List Char → Option Nat
  | [] => none
  | '0' :: 'x' :: digits => readIn? 16 digits
  | '0' :: 'X' :: digits => readIn? 16 digits
  | ['0'] => some 0
  | '0' :: digits => readIn? 8 digits
  | digits => readIn? 10 digits

/-- The parts of a host between its points, without an empty one at the end. -/
def parts (host : List Char) : List (List Char) :=
  let parts := Text.parts '.' host
  if parts.getLast? = some [] then parts.dropLast else parts

/-- Whether a host ends in a number, so that it has to be an address. -/
def isMeant (host : List Char) : Bool :=
  match (parts host).getLast? with
  | none => false
  | some last => (!last.isEmpty && last.all Text.isDecimal) || (number? last).isSome

/-- Reads a host. -/
def read? (host : List Char) : Option ShortAddress := do
  let numbers ← (parts host).mapM number?
  let last ← numbers.getLast?
  let bytes := numbers.dropLast
  if bytes.length < 4 ∧ bytes.all (· < 2 ^ 8) ∧ last < 256 ^ (4 - bytes.length) then
    some (BitVec.ofNat 32 (Text.ofDigits 256 bytes * 256 ^ (4 - bytes.length) + last))
  else none

/-- The four bytes of an address, with points between them. -/
def text (a : ShortAddress) : List Char :=
  Text.joinParts '.' ([24, 16, 8, 0].map fun k => Text.numeral 10 (a.toNat / 2 ^ k % 2 ^ 8))

end ShortAddress

namespace LongAddress

/-- Reads a group of hexadecimal digits. -/
def group? (text : List Char) : Option Nat :=
  if 1 ≤ text.length ∧ text.length ≤ 4 then readIn? 16 text else none

/-- Reads groups, of which the last one may be a short address that counts as two. -/
def groups? (text : List Char) : Option (List Nat) :=
  let parts := Text.parts ':' text
  match plainBytes? (parts.getLast?.getD []) with
  | some [a, b, c, d] =>
    (parts.dropLast.mapM group?).map (· ++ [256 * a + b, 256 * c + d])
  | _ => parts.mapM group?

/-- Reads groups, or nothing at all as none. -/
def side? (read : List Char → Option (List Nat)) (text : List Char) : Option (List Nat) :=
  if text.isEmpty then some [] else read text

/-- The text in front of the first two colons and the text behind them. -/
def split? : List Char → Option (List Char × List Char)
  | ':' :: ':' :: rest => some ([], rest)
  | c :: rest => (split? rest).map fun s => (c :: s.1, s.2)
  | [] => none

/-- The eight groups that a text is written for. -/
def allGroups? (text : List Char) : Option (List Nat) :=
  match split? text with
  | none => (groups? text).filter (·.length = 8)
  | some (head, tail) =>
    match side? (fun text => (Text.parts ':' text).mapM group?) head, side? groups? tail with
    | some front, some back =>
      if front.length + back.length < 8 then
        some (front ++ List.replicate (8 - front.length - back.length) 0 ++ back)
      else none
    | _, _ => none

/-- How many characters an address has at most: six groups of four and a short address. -/
def longest : Nat := 45

/-- Reads an address. -/
def read? (text : List Char) : Option LongAddress :=
  if longest < text.length then none
  else (allGroups? text).map fun groups => BitVec.ofNat 128 (Text.ofDigits (2 ^ 16) groups)

/-- The eight groups of an address. -/
def groups (a : LongAddress) : List Nat :=
  [112, 96, 80, 64, 48, 32, 16, 0].map fun k => a.toNat / 2 ^ k % 2 ^ 16

/-- How many groups of zero there are in front. -/
def zeros (groups : List Nat) : Nat := (groups.takeWhile (· = 0)).length

/-- Groups with colons between them. -/
def colons (groups : List Nat) : List Char := Text.joinParts ':' (groups.map (Text.numeral 16))

/-- An address, with two colons for the longest run of more than one group of zero. Of two that
are as long it is the first. -/
def text (a : LongAddress) : List Char :=
  let g := groups a
  let runs := (List.range 8).map fun i => zeros (g.drop i)
  let longest := runs.foldl max 0
  let start := runs.idxOf longest
  if longest < 2 then colons g
  else colons (g.take start) ++ "::".toList ++ colons (g.drop (start + longest))

end LongAddress

end Rollup.Url
