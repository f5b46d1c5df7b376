/-
Amounts of ether and amounts of wei. One ether is `10 ^ 18` wei.

`format` writes an amount with all its 18 decimals. `read` takes a decimal
amount: the first point is removed and what stood behind it are the decimals, of
which at most 18 bytes count and the rest is cut off unread. What remains is an
integer with underscores allowed anywhere, scaled up by the decimals that are
missing. Behind a minus at the very front the integer is signed, and the amount is its
two's complement in 256 bits.
-/
import Rollup.Bytes
import Rollup.Quantity
import Rollup.Word

set_option autoImplicit false

namespace Rollup.Ether

/-- The number of decimals of an amount in ether. -/
def decimals : Nat := 18

/-- Why a text is no amount of ether. -/
inductive Error where
  /-- It is no decimal number, or one out of range. -/
  | notAnAmount
  /-- The cut behind the last decimal would fall into the middle of a character. -/
  | cutCharacter
  deriving DecidableEq, Repr

/-- The first characters of a text that are `size` bytes long together. -/
def takeBytes : (size : Nat) → List Char → Option (List Char)
  | 0, _ => some []
  | _ + 1, [] => none
  | size, c :: rest =>
    if c.utf8Size ≤ size then (takeBytes (size - c.utf8Size) rest).map (c :: ·) else none

/-- The whole part of an amount, its decimals if it has a point, cut down to those that count. -/
def split (text : List Char) : Except Error (List Char × List Char) :=
  let whole := text.takeWhile (· ≠ '.')
  let rest := (text.dropWhile (· ≠ '.')).drop 1
  if (Bytes.ofText rest).length ≤ decimals then .ok (whole, rest)
  else match takeBytes decimals rest with
    | some kept => .ok (whole, kept)
    | none => .error .cutCharacter

/-- An integer of wei, scaled up, if it fits into 256 bits. -/
def unsigned (digits : List Char) (scale : Nat) : Option Word := do
  let n ← Quantity.readDigits 10 (2 ^ 256) digits
  Word.ofNat? (n * scale)

/-- The two's complement of an integer of wei, scaled up, if it fits into 255 bits and a sign. -/
def negated (digits : List Char) (scale : Nat) : Option Word := do
  let n ← Quantity.readDigits 10 (2 ^ 255 + 1) digits
  if n * scale ≤ 2 ^ 255 then some (BitVec.ofInt 256 (-(n * scale : Nat))) else none

/-- Reads an amount of ether as wei. Only a minus in front of all, the point included, is a sign. -/
def read (text : List Char) : Except Error Word :=
  match split text with
  | .error e => .error e
  | .ok (whole, fraction) =>
    -- What stands behind the point counts by its bytes, underscores among them.
    let scale := 10 ^ (decimals - (Bytes.ofText fraction).length)
    let wei? := match whole with
      | '-' :: digits => negated (digits ++ fraction) scale
      | digits => unsigned (digits ++ fraction) scale
    match wei? with
    | some wei => .ok wei
    | none => .error .notAnAmount

/-- An amount of wei in ether, with all its decimals. -/
def format (wei : Word) : String :=
  let unit := 10 ^ decimals
  Text.decimal (wei.toNat / unit) ++ "." ++
    String.ofList (Text.padFront '0' decimals (Text.numeral 10 (wei.toNat % unit)))

end Rollup.Ether
