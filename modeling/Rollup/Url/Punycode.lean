/-
Punycode: text in letters, digits and hyphens.

The plain characters of a text come first, as they are. Behind a hyphen, each of
the others is told by one number: how far to go on from the one before, in a count
that runs through all places of the text so far, and through the characters in
their order. Numbers are written in 36 digits without any mark between them, so
that a digit below a threshold ends its number. The thresholds follow a bias,
which follows the sizes of the numbers so far.
-/
import Rollup.Powers
import Rollup.Text.Numeral

set_option autoImplicit false

namespace Rollup.Url.Punycode

/-! ## Digits and thresholds -/

/-- The character of a digit: `a` to `z`, then `0` to `9`. -/
def digitChar (d : Nat) : Char :=
  if d < 26 then Char.ofNat (0x61 + d) else Char.ofNat (0x30 + (d - 26))

/-- The value of a digit, in lower case. -/
def digit? (c : Char) : Option Nat :=
  let n := c.toNat
  if 0x61 ≤ n ∧ n ≤ 0x7A then some (n - 0x61)
  else if 0x30 ≤ n ∧ n ≤ 0x39 then some (n - 0x30 + 26)
  else none

/-- The threshold of a digit. `place` is 36 for the first digit of a number, 72 for the second. -/
def threshold (place bias : Nat) : Nat :=
  if place ≤ bias then 1 else if bias + 26 ≤ place then 26 else place - bias

theorem one_le_threshold (place bias : Nat) : 1 ≤ threshold place bias := by
  unfold threshold
  split
  · omega
  · split <;> omega

/-- The bias that suits a number. -/
def suited (n : Nat) : Nat :=
  if 455 < n then 36 + suited (n / 35) else 36 * n / (n + 38)
termination_by n

/-- The bias behind a number, by which a character was put in as the one of a count. -/
def adapt (number count : Nat) (isFirst : Bool) : Nat :=
  let scaled := if isFirst then number / 700 else number / 2
  suited (scaled + scaled / count)

/-- Where the bias begins. -/
def firstBias : Nat := 72

/-- The first character that is not plain. -/
def firstPoint : Nat := 0x80

/-! ## Writing -/

/-- The digits of a number from a place on. -/
def writeNumber (bias place n : Nat) : List Char :=
  let t := threshold place bias
  if n < t then [digitChar n]
  else digitChar (t + (n - t) % (36 - t)) :: writeNumber bias (place + 36) ((n - t) / (36 - t))
termination_by n
decreasing_by
  have h := one_le_threshold place bias
  calc (n - threshold place bias) / (36 - threshold place bias)
      ≤ n - threshold place bias := Nat.div_le_self _ _
    _ < n := by omega

/-- What has been written. -/
structure Writing where
  /-- The characters written, the last one first. -/
  out : List Char
  /-- How far to go on so far. -/
  number : Nat
  bias : Nat
  /-- How many characters of the text have been told. -/
  told : Nat

/-- Goes on by one place of the text in the pass for a character. -/
def Writing.visit (plain point : Nat) (w : Writing) (c : Char) : Writing :=
  if c.toNat < point then ⟨w.out, w.number + 1, w.bias, w.told⟩
  else if c.toNat = point then
    ⟨(writeNumber w.bias 36 w.number).reverse ++ w.out, 0,
      adapt w.number (w.told + 1) (w.told = plain), w.told + 1⟩
  else w

/-- The passes for the characters that are left, from a character on. -/
def Writing.pass (text : List Char) (plain : Nat) : (rest : List Nat) → Nat → Writing → Writing
  | [], _, w => w
  | point :: rest, least, w =>
    let start : Writing := ⟨w.out, w.number + (point - least) * (w.told + 1), w.bias, w.told⟩
    let w := text.foldl (Writing.visit plain point) start
    pass text plain rest (point + 1) ⟨w.out, w.number + 1, w.bias, w.told⟩

/-- The characters of a text that are not plain, each once and in order. -/
def points (text : List Char) : List Nat :=
  ((text.map (·.toNat)).filter (firstPoint ≤ ·)).mergeSort.eraseDups

/-- Writes a text. -/
def encode (text : List Char) : List Char :=
  let plain := text.filter fun c => c.toNat < firstPoint
  let head := if plain.isEmpty then [] else '-' :: plain.reverse
  (Writing.pass text plain.length (points text) firstPoint
    ⟨head, 0, firstBias, plain.length⟩).out.reverse

/-! ## Reading -/

/-- What has been read. -/
structure Reading where
  /-- The text so far. -/
  text : List Char
  /-- The character that was put in last. -/
  point : Nat
  /-- Where the next character would go if its number were zero. -/
  start : Nat
  /-- Where it goes by the digits of its number so far. -/
  position : Nat
  /-- What the next digit of the number counts. -/
  weight : Nat
  place : Nat
  bias : Nat

namespace Reading

/-- The numbers on the way stay below this. -/
def limit : Nat := 2 ^ 32

/-- The state between two numbers. -/
def between (text : List Char) (point start bias : Nat) : Reading :=
  ⟨text, point, start, start, 1, 36, bias⟩

/-- Puts in the character that a number tells, which is complete. -/
def insert (r : Reading) : Option Reading :=
  let count := r.text.length + 1
  let point := r.point + r.position / count
  let place := r.position % count
  if point.isValidChar then
    some (between (r.text.take place ++ Char.ofNat point :: r.text.drop place) point (place + 1)
      (adapt (r.position - r.start) count (r.start = 0)))
  else none

/-- Takes the next digit. -/
def push (r : Reading) (c : Char) : Option Reading :=
  match digit? c with
  | none => none
  | some d =>
    let t := threshold r.place r.bias
    let position := r.position + d * r.weight
    let weight := r.weight * (36 - t)
    if limit ≤ position then none
    else if d < t then insert ⟨r.text, r.point, r.start, position, r.weight, r.place, r.bias⟩
    else if limit ≤ weight then none
    else some ⟨r.text, r.point, r.start, position, weight, r.place + 36, r.bias⟩

/-- Whether no number is unfinished. -/
def isBetween (r : Reading) : Bool := r.place = 36

end Reading

/-- The plain characters in front of the last hyphen, and what is behind it. A hyphen in front of
all else separates nothing. -/
def splitPlain (spelled : List Char) : List Char × List Char :=
  let tail := (spelled.reverse.takeWhile (· ≠ '-')).reverse
  match spelled.take (spelled.length - tail.length) with
  | [] => ([], spelled)
  | ['-'] => ([], spelled)
  | head => (head.dropLast, tail)

/-- Reads a text; no capital letter is read as a digit. -/
def decode? (spelled : List Char) : Option (List Char) :=
  let (plain, numbers) := splitPlain spelled
  match numbers.foldlM Reading.push (Reading.between plain firstPoint 0 firstBias) with
  | some r => if r.isBetween then some r.text else none
  | none => none

end Rollup.Url.Punycode
