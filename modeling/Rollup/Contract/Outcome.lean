/-
Outcomes of verifying single contracts.

An outcome belongs to the key of a record. It is verified or failed, and may give
a reason. It is printed as one line and written as a JSON object from which it
can be read back; without a reason that member is left out. The status may also
be read from an object with the status as its only key and a null as its value.
-/
import Rollup.Contract.Record

set_option autoImplicit false

namespace Rollup.Contract

/-- How a verification ended. -/
inductive Status where
  /-- The artifact was accepted. -/
  | verified
  /-- It was rejected, or not submitted at all. -/
  | failed
  deriving DecidableEq, Repr

/-- The name of a status. -/
def Status.name : Status → String
  | .verified => "verified"
  | .failed => "failed"

/-- Where a padded text keeps the text. -/
inductive Alignment where
  | left
  | right
  | center
  deriving DecidableEq, Repr

/-- A status in a field of at least `width` characters. -/
def Status.padded (status : Status) (fill : Char) (side : Alignment) (width : Nat) : String :=
  let name := status.name.toList
  String.ofList <| match side with
    | .left => Text.padBack fill width name
    | .right => Text.padFront fill width name
    | .center =>
      Text.padBack fill width (Text.padFront fill (name.length + (width - name.length) / 2) name)

/-- The first `count` characters of a status. -/
def Status.cut (status : Status) (count : Nat) : String :=
  String.ofList (status.name.toList.take count)

/-- The widest field that a status is printed in. -/
def widestField : Nat := 65535

/-- A status as it stands in a field of one width. -/
structure StatusField where
  left : String
  right : String
  /-- In the middle, between asterisks. -/
  center : String
  /-- As much of the status as the field holds. -/
  cut : String
  deriving DecidableEq, Repr

/-- A status in a field of a width, unless the field is too wide. -/
def Status.inField (status : Status) (width : Nat) : Option StatusField :=
  if width ≤ widestField then
    some ⟨status.padded ' ' .left width, status.padded ' ' .right width,
      status.padded '*' .center width, status.cut width⟩
  else none

/-- The outcome of verifying one contract. -/
structure Outcome where
  address : Address
  sourcePath : String
  status : Status
  /-- Why the verification failed. -/
  reason : Option String
  deriving DecidableEq, Repr

namespace Outcome

/-- A record that was verified. -/
def verified (r : Record) : Outcome := ⟨r.address, r.sourcePath, .verified, none⟩

/-- A key whose verification failed. -/
def failed (k : Key) (reason : String) : Outcome := ⟨k.address, k.sourcePath, .failed, some reason⟩

/-- Whether the record was verified. -/
def isVerified (o : Outcome) : Bool := o.status = .verified

/-- What identifies the record. -/
def key (o : Outcome) : Key := ⟨o.address, o.sourcePath⟩

/-- An outcome in one line. -/
def text (o : Outcome) : String :=
  o.status.padded ' ' .left 8 ++ " " ++ o.key.text ++
    match o.reason with
    | none => ""
    | some reason => " (" ++ reason ++ ")"

/-- An outcome as a JSON object. -/
def toJson (o : Outcome) : Json.Value :=
  .object ([("address", .string o.address.lower), ("sourcePath", .string o.sourcePath),
    ("status", .string o.status.name)] ++
      match o.reason with
      | none => []
      | some reason => [("reason", .string reason)])

end Outcome

/-! ## Reading -/

/-- The status of a name. -/
def Status.ofName? (name : List Char) : Option Status :=
  let name := String.ofList name
  if name = "verified" then some .verified else if name = "failed" then some .failed else none

/-- A status by its name, which has been read up to `rest`. -/
def Status.named (rest name : List Char) : Except Json.Stop Status :=
  Json.required rest (ofName? name)

/-- Reads a status. Any other value is not even looked at. -/
def Status.read : Json.Reader Status := fun text =>
  match Json.skipGap text with
  | [] => Json.endsEarly
  | c :: rest =>
    if c = Json.quoteMark then do
      let (name, rest) ← Json.takeString .wanted rest
      .ok (← named rest name, rest)
    -- A status may also be the name of an object with nothing in it.
    else if c = '\x7b' then do
      let (name, rest) ← Json.readKey rest
      let status ← named rest name
      let ((), rest) ← Json.readNull (← Json.readColon rest)
      .ok (status, ← Json.closeObject rest)
    else Json.malformed (c :: rest)

namespace Outcome

/-- The members of an outcome that have been read so far. -/
structure Partial where
  address : Option Address
  sourcePath : Option String
  status : Option Status
  reason : Option (Option String)

/-- Nothing read yet. -/
def Partial.empty : Partial := ⟨none, none, none, none⟩

/-- Reads the member with a given key. Each may be given once, and any other one is skipped. -/
def Partial.member (p : Partial) (key : List Char) : Json.Reader Partial := fun text =>
  let key := String.ofList key
  if key = "address" then do
    let (v, rest) ← Json.readOnce p.address readAddress text
    .ok (⟨some v, p.sourcePath, p.status, p.reason⟩, rest)
  else if key = "sourcePath" then do
    let (v, rest) ← Json.readOnce p.sourcePath readText text
    .ok (⟨p.address, some v, p.status, p.reason⟩, rest)
  else if key = "status" then do
    let (v, rest) ← Json.readOnce p.status Status.read text
    .ok (⟨p.address, p.sourcePath, some v, p.reason⟩, rest)
  else if key = "reason" then do
    let (v, rest) ← Json.readOnce p.reason (Json.readOptional readText) text
    .ok (⟨p.address, p.sourcePath, p.status, some v⟩, rest)
  else (Json.skipMember text).map fun rest => (p, rest)

/-- The outcome, if no member is missing that has to be there when the object
ends in front of `rest`. -/
def Partial.complete (p : Partial) (rest : List Char) : Except Json.Stop Outcome := do
  let address ← Json.required rest p.address
  let sourcePath ← Json.required rest p.sourcePath
  let status ← Json.required rest p.status
  .ok ⟨address, sourcePath, status, p.reason.getD none⟩

/-- Reads an outcome. -/
def read : Json.Reader Outcome := fun text =>
  match Json.skipGap text with
  | '[' :: rest => do
    let (address, rest) ← Json.readElement true readAddress rest
    let (sourcePath, rest) ← Json.readElement false readText rest
    let (status, rest) ← Json.readElement false Status.read rest
    let (reason, rest) ← Json.readLastElement none (Json.readOptional readText) rest
    .ok (⟨address, sourcePath, status, reason⟩, ← Json.closeArray rest)
  | '\x7b' :: rest => do
    let (p, rest) ← Json.readMembers Partial.member (Json.fuelFor rest) true .empty rest
    .ok (← p.complete rest, ← Json.closeObject rest)
  | text => Json.wrongType text

end Outcome

end Rollup.Contract
