/-
JSON values: reading them from text and writing them, in one line or laid out.

Numbers are kept as they are written, and the members of an object in the order
in which they are given. The reader keeps what encloses the value it is at on a
stack and takes one step at a time, so that the depth of a text is not limited.
-/
import Rollup.Json.Reader

set_option autoImplicit false

namespace Rollup.Json

/-- A JSON value. -/
inductive Value where
  | null
  | bool (b : Bool)
  /-- A number as it is written. -/
  | number (text : List Char)
  | string (content : String)
  | array (items : List Value)
  | object (members : List (String × Value))
  deriving Inhabited

/-- A natural number as a value. -/
def Value.ofNat (n : Nat) : Value := .number (Text.numeral 10 n)

/-- The value of a key, if the value is an object that has it. -/
def Value.get? (key : String) : Value → Option Value
  | .object members => (members.find? (·.1 = key)).map (·.2)
  | _ => none

/-! ## Reading -/

/-- An array or object that is not complete yet, the last item first. -/
inductive Frame where
  | array (items : List Value)
  | object (members : List (String × Value)) (key : String)

/-- The state of the reader: what is awaited, within which frames, or the complete value. -/
inductive Progress where
  | inside (stack : List Frame) (awaited : Awaited)
  | complete (v : Value)

/-- Puts a complete value where it belongs. -/
def Progress.put (stack : List Frame) (v : Value) : Progress :=
  match stack with
  | [] => .complete v
  | .array items :: stack => .inside (.array (v :: items) :: stack) .separator
  | .object members key :: stack => .inside (.object ((key, v) :: members) key :: stack) .separator

/-- Completes the innermost array or object. -/
def Progress.close : List Frame → Progress
  | .array items :: stack => .put stack (.array items.reverse)
  | .object members _ :: stack => .put stack (.object members.reverse)
  | [] => .inside [] .value

/-- The bracket that closes an array or object. -/
def Frame.closing : Frame → Char
  | .array _ => Bracket.square.closing
  | .object _ _ => Bracket.curly.closing

/-- Takes the key of the next member of the innermost object. -/
def Progress.name (stack : List Frame) (key : List Char) : Progress :=
  match stack with
  | .object members _ :: stack => .inside (.object members (String.ofList key) :: stack) .colon
  | stack => .inside stack .colon

/-- Begins a value at the front of a text without white space before it. -/
def Progress.start (stack : List Frame) : Reader Progress := fun text =>
  match text with
  | '[' :: rest => .ok (.inside (.array [] :: stack) .element, rest)
  | '\x7b' :: rest => .ok (.inside (.object [] "" :: stack) .member, rest)
  | text => do
    let (scalar, rest) ← Scalar.take .wanted text
    let value : Value := match scalar with
      | .null => .null
      | .bool b => .bool b
      | .number n => .number n.text
      | .string content => .string (String.ofList content)
    .ok (.put stack value, rest)

/-- Takes a key off a text. -/
def Progress.startMember (stack : List Frame) : Reader Progress := fun text => do
  let (key, rest) ← readKey text
  .ok (.name stack key, rest)

/-- One step: what stands at the front of a text without white space before it. -/
def Progress.step (p : Progress) : Reader Progress := fun text =>
  match p, text with
  -- Nothing may stand behind a value that is complete.
  | .complete _, text => malformed text
  | .inside _ _, [] => endsEarly
  | .inside stack awaited, c :: rest =>
    let closes := (stack.head?.map Frame.closing) = some c
    match awaited with
    | .value => Progress.start stack (c :: rest)
    | .element => if closes then .ok (.close stack, rest) else Progress.start stack (c :: rest)
    | .member => if closes then .ok (.close stack, rest) else Progress.startMember stack (c :: rest)
    | .key => Progress.startMember stack (c :: rest)
    | .colon => do .ok (.inside stack .value, ← readColon (c :: rest))
    | .separator =>
      if closes then .ok (.close stack, rest)
      else do
        let rest ← readComma (c :: rest)
        match stack with
        | .object _ _ :: _ => .ok (.inside stack .key, rest)
        | _ => .ok (.inside stack .value, rest)

/-- Takes steps until a value is complete. -/
def Progress.run : Fuel → Progress → Reader Value
  | _, .complete v, text => .ok (v, text)
  | [], .inside _ _, _ => endsEarly
  | _ :: fuel, p, text => do
    let (p, rest) ← p.step (skipGap text)
    run fuel p rest

/-- Reads any value. -/
def readValue : Reader Value := fun text =>
  Progress.run (fuelFor text) (.inside [] .value) text

/-- Reads a text that is one JSON value. -/
def parse (text : List Char) : Except Fault Value := readText readValue text

/-! ## Writing -/

/-- The two digits of a control character. -/
def controlEscape (n : Nat) : List Char :=
  "\\u00".toList ++ [Text.digitChar (n / 16), Text.digitChar (n % 16)]

/-- A character as it stands in a string. -/
def escape (c : Char) : List Char :=
  if c = quoteMark then ['\\', quoteMark]
  else if c = '\\' then ['\\', '\\']
  else if c.toNat = 0x08 then ['\\', 'b']
  else if c.toNat = 0x09 then ['\\', 't']
  else if c.toNat = 0x0A then ['\\', 'n']
  else if c.toNat = 0x0C then ['\\', 'f']
  else if c.toNat = 0x0D then ['\\', 'r']
  else if c.toNat < 0x20 then controlEscape c.toNat
  else [c]

/-- A string between quotation marks. -/
def quote (content : List Char) : List Char :=
  quoteMark :: (content.flatMap escape ++ [quoteMark])

/-- The blanks at the front of a line at a depth. -/
def indent (depth : Nat) : List Char := '\n' :: List.replicate (2 * depth) ' '

/-- Pieces between brackets, in one line. -/
def enclose (left right : Char) (pieces : List (List Char)) : List Char :=
  left :: ((pieces.intersperse [',']).flatten ++ [right])

/-- Pieces between brackets, each on a line of its own; no pieces stay in one line. -/
def encloseLines (left right : Char) (depth : Nat) (pieces : List (List Char)) : List Char :=
  if pieces.isEmpty then [left, right]
  else left :: (((pieces.map (indent (depth + 1) ++ ·)).intersperse [',']).flatten ++
    indent depth ++ [right])

mutual

/-- A value in one line, without blanks. -/
def Value.compact : Value → List Char
  | .null => "null".toList
  | .bool true => "true".toList
  | .bool false => "false".toList
  | .number text => text
  | .string content => quote content.toList
  | .array items => enclose '[' ']' (compactItems items)
  | .object members => enclose '\x7b' '\x7d' (compactMembers members)

/-- The items of an array, each in one line. -/
def compactItems : List Value → List (List Char)
  | [] => []
  | v :: rest => v.compact :: compactItems rest

/-- The members of an object, each in one line. -/
def compactMembers : List (String × Value) → List (List Char)
  | [] => []
  | (key, v) :: rest => (quote key.toList ++ ':' :: v.compact) :: compactMembers rest

end

mutual

/-- A value laid out: every item and member on its own line, two blanks deeper than its
enclosure. -/
def Value.pretty (depth : Nat) : Value → List Char
  | .null => "null".toList
  | .bool true => "true".toList
  | .bool false => "false".toList
  | .number text => text
  | .string content => quote content.toList
  | .array items => encloseLines '[' ']' depth (prettyItems (depth + 1) items)
  | .object members => encloseLines '\x7b' '\x7d' depth (prettyMembers (depth + 1) members)

/-- The items of an array, laid out. -/
def prettyItems (depth : Nat) : List Value → List (List Char)
  | [] => []
  | v :: rest => v.pretty depth :: prettyItems depth rest

/-- The members of an object, laid out. -/
def prettyMembers (depth : Nat) : List (String × Value) → List (List Char)
  | [] => []
  | (key, v) :: rest =>
    (quote key.toList ++ ':' :: ' ' :: v.pretty depth) :: prettyMembers depth rest

end

/-- The text of a value in one line. -/
def Value.text (v : Value) : String := String.ofList v.compact

end Rollup.Json
