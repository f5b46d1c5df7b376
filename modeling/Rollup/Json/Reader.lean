/-
Reading values of a known form out of a JSON text.

A reader takes a value off the front of a text and returns what it read with the
text behind, or says why it stopped and where. A value of the wrong type is a mismatch as
soon as its kind is seen; where no value can stand, the text is malformed.
Values nobody asked for are skipped, to any depth.
-/
import Rollup.Json.Scalar

set_option autoImplicit false

namespace Rollup.Json

/-! ## Single values -/

/-- Stops at a text, without white space before it, that begins with a value of the wrong type. A
single value is taken, an array or an object is left. -/
def wrongType {α : Type} : List Char → Except Stop α
  | [] => endsEarly
  | c :: rest =>
    if c = '[' || c = '\x7b' then mismatch (c :: rest)
    else do
      let (_, rest) ← Scalar.take .wanted (c :: rest)
      mismatch rest

/-- Reads a value that holds no others; a value that does is of the wrong type. -/
def readScalar : Reader Scalar := fun text =>
  match skipGap text with
  | '[' :: rest => wrongType ('[' :: rest)
  | '\x7b' :: rest => wrongType ('\x7b' :: rest)
  | text => Scalar.take .wanted text

/-- Reads a string. -/
def readString : Reader (List Char) := fun text => do
  match ← readScalar text with
  | (.string content, rest) => .ok (content, rest)
  | (_, rest) => mismatch rest

/-- Reads a truth value. -/
def readBool : Reader Bool := fun text => do
  match ← readScalar text with
  | (.bool b, rest) => .ok (b, rest)
  | (_, rest) => mismatch rest

/-- Reads a null. -/
def readNull : Reader Unit := fun text => do
  match ← readScalar text with
  | (.null, rest) => .ok ((), rest)
  | (_, rest) => mismatch rest

/-- Reads a whole number from zero on and below `limit`. -/
def readUnsigned (limit : Nat) : Reader Nat := fun text => do
  match ← readScalar text with
  | (.number number, rest) =>
    match number.whole? with
    | some (.ofNat n) => if n < limit then .ok (n, rest) else mismatch rest
    | _ => mismatch rest
  | (_, rest) => mismatch rest

/-- Reads a null as nothing, and anything else with another reader. -/
def readOptional {α : Type} (read : Reader α) : Reader (Option α) := fun text =>
  match skipGap text with
  | 'n' :: rest => do
    let ((), rest) ← readNull ('n' :: rest)
    .ok (none, rest)
  | text => do
    let (a, rest) ← read text
    .ok (some a, rest)

/-! ## Skipping -/

/-- The kinds of brackets. -/
inductive Bracket where
  | square
  | curly
  deriving DecidableEq, Repr

/-- The bracket that closes. -/
def Bracket.closing : Bracket → Char
  | .square => ']'
  | .curly => '\x7d'

/-- What comes next where arrays and objects are taken apart. -/
inductive Awaited where
  | value
  /-- A value or the end of the array. -/
  | element
  /-- A key or the end of the object. -/
  | member
  | key
  | colon
  /-- A comma or a closing bracket. -/
  | separator
  deriving DecidableEq, Repr

/-- What comes next when the innermost bracket has been closed: nothing, if it was the outermost. -/
def Awaited.afterClosing : (stack : List Bracket) → Option (List Bracket × Awaited)
  | [] | [_] => none
  | _ :: outer => some (outer, .separator)

/-- Takes the beginning of a value that nobody asked for off a text without white space before it,
or the whole of it if it holds no others. -/
def skipBeginning (stack : List Bracket) : Reader (Option (List Bracket × Awaited))
  | '[' :: rest => .ok (some (.square :: stack, .element), rest)
  | '\x7b' :: rest => .ok (some (.curly :: stack, .member), rest)
  | text => do
    let (_, rest) ← Scalar.take .skipped text
    .ok (if stack.isEmpty then none else some (stack, .separator), rest)

/-- Takes a key that nobody asked for off a text without white space before it. -/
def skipKey (stack : List Bracket) : Reader (Option (List Bracket × Awaited))
  | [] => endsEarly
  | c :: rest =>
    if c = quoteMark then do
      let (_, rest) ← takeString .skipped rest
      .ok (some (stack, .colon), rest)
    else malformed (c :: rest)

/-- Takes one step through values that nobody asked for: what stands at the front of a text without
white space before it. Returns what encloses the next step, the innermost bracket first, and what it
awaits, or nothing when all is complete. -/
def skipStep (stack : List Bracket) (awaited : Awaited) :
    Reader (Option (List Bracket × Awaited)) := fun text =>
  match text with
  | [] => endsEarly
  | c :: rest =>
    -- Only the bracket that was opened last can be closed.
    let closes := (stack.head?.map Bracket.closing) = some c
    match awaited with
    | .value => skipBeginning stack text
    | .element =>
      if closes then .ok (Awaited.afterClosing stack, rest) else skipBeginning stack text
    | .member => if closes then .ok (Awaited.afterClosing stack, rest) else skipKey stack text
    | .key => skipKey stack text
    | .colon => if c = ':' then .ok (some (stack, .value), rest) else malformed text
    | .separator =>
      if closes then .ok (Awaited.afterClosing stack, rest)
      else if c = ',' then
        .ok (some (stack, if stack.head? = some .curly then .key else .value), rest)
      else malformed text

/-- Skips text until the value that is awaited and all that encloses it are complete. -/
def skip : Fuel → (stack : List Bracket) → Awaited → List Char → Except Stop (List Char)
  | [], _, _, _ => endsEarly
  | _ :: fuel, stack, awaited, text => do
    match ← skipStep stack awaited (skipGap text) with
    | (none, rest) => .ok rest
    | (some (stack, awaited), rest) => skip fuel stack awaited rest

/-- Skips one value. -/
def skipValue (text : List Char) : Except Stop (List Char) := skip (fuelFor text) [] .value text

/-! ## Arrays -/

/-- Finds the next element of an array: the text that it begins, or nothing when the array ends
here. The closing bracket is left for `closeArray`. -/
def nextElement (first : Bool) (text : List Char) : Except Stop (Option (List Char)) :=
  match skipGap text with
  | [] => endsEarly
  | ']' :: _ => .ok none
  | c :: rest =>
    if first then .ok (some (c :: rest))
    else if c = ',' then
      match skipGap rest with
      | [] => endsEarly
      -- No comma stands behind the last element.
      | ']' :: rest => malformed (']' :: rest)
      | rest => .ok (some rest)
    else malformed (c :: rest)

/-- Takes the bracket that closes an array. -/
def closeArray (text : List Char) : Except Stop (List Char) :=
  match skipGap text with
  | [] => endsEarly
  | ']' :: rest => .ok rest
  | rest => malformed rest

/-- Reads elements up to the closing bracket, onto those read `before`, the last one first. -/
def readElements {α : Type} (read : Reader α) :
    Fuel → (first : Bool) → (before : List α) → Reader (List α)
  | [], _, _, _ => endsEarly
  | _ :: fuel, first, before, text => do
    match ← nextElement first text with
    | none => .ok (before.reverse, ← closeArray text)
    | some text =>
      let (a, rest) ← read text
      readElements read fuel false (a :: before) rest

/-- Reads an array whose elements all have one form. -/
def readArray {α : Type} (read : Reader α) : Reader (List α) := fun text =>
  match skipGap text with
  | '[' :: rest => readElements read (fuelFor rest) true [] rest
  | text => wrongType text

/-- Reads an element that has to be there. -/
def readElement {α : Type} (first : Bool) (read : Reader α) : Reader α := fun text => do
  match ← nextElement first text with
  | none => mismatch text
  | some text => read text

/-- Reads an element that may be left out at the end of an array, together with all behind it. -/
def readLastElement {α : Type} (absent : α) (read : Reader α) : Reader α := fun text => do
  match ← nextElement false text with
  | none => .ok (absent, text)
  | some text => read text

/-! ## Objects -/

/-- Reads a key. -/
def readKey : Reader (List Char) := fun text =>
  match skipGap text with
  | [] => endsEarly
  | c :: rest => if c = quoteMark then takeString .wanted rest else malformed (c :: rest)

/-- Takes a character that has to come next. -/
def expect (mark : Char) (text : List Char) : Except Stop (List Char) :=
  match skipGap text with
  | [] => endsEarly
  | c :: rest => if c = mark then .ok rest else malformed (c :: rest)

/-- Takes the colon behind a key. -/
def readColon (text : List Char) : Except Stop (List Char) := expect ':' text

/-- Takes the comma in front of a key that is not the first one. -/
def readComma (text : List Char) : Except Stop (List Char) := expect ',' text

/-- Takes the bracket that closes an object. -/
def closeObject (text : List Char) : Except Stop (List Char) := expect '\x7d' text

/-- Takes the members of an object into a state, up to the closing bracket, which is left.
`member` gets a key and the text behind it, colon included. -/
def readMembers {σ : Type} (member : σ → List Char → Reader σ) :
    Fuel → (first : Bool) → σ → Reader σ
  | [], _, _, _ => endsEarly
  | _ :: fuel, first, s, text =>
    match skipGap text with
    | '\x7d' :: rest => .ok (s, '\x7d' :: rest)
    | text => do
      let text ← if first then .ok text else readComma text
      let (key, rest) ← readKey text
      let (s, rest) ← member s key rest
      readMembers member fuel false s rest

/-- Reads the value of a member that may be given only once. -/
def readOnce {α : Type} (already : Option α) (read : Reader α) : Reader α := fun text =>
  match already with
  | some _ => mismatch text
  | none => do read (← readColon text)

/-- Skips the value of a member that nobody asked for. -/
def skipMember (text : List Char) : Except Stop (List Char) := do
  skipValue (← readColon text)

/-- A member that has to be there when the object ends in front of `rest`. -/
def required {α : Type} (rest : List Char) : Option α → Except Stop α
  | some a => .ok a
  | none => mismatch rest

/-! ## Whole texts -/

/-- Reads a text that is one value and nothing else. -/
def readText {α : Type} (read : Reader α) (text : List Char) : Except Fault α :=
  match read text with
  | .ok (a, rest) => if (skipGap rest).isEmpty then .ok a else .error .malformed
  | .error stop => .error stop.fault

end Rollup.Json
