/-
Records of deployed contracts.

A record says which artifact was deployed where, and with how many optimizer runs
it was compiled. For a proxy the artifact is the one of the implementation behind
it. A record is identified by its key, the address with the source path; keys are
ordered by the address, then by the source path, both byte by byte.

Records are read from JSON objects, or from arrays of the fields in order. The
source path may be called `path`, and a record that does not say so is no proxy.
-/
import Rollup.Address
import Rollup.Json.Value

set_option autoImplicit false

namespace Rollup.Contract

/-- What identifies a record: where it is deployed, and its artifact. -/
structure Key where
  address : Address
  sourcePath : String
  deriving DecidableEq, Repr

namespace Key

/-- The order of keys. -/
def le (a b : Key) : Bool :=
  if a.address = b.address then a.sourcePath ≤ b.sourcePath else a.address.le b.address

/-- A key in words. -/
def text (k : Key) : String := k.address.checksum ++ " " ++ k.sourcePath

end Key

/-- A contract to verify. -/
structure Record where
  /-- The artifact, `path/to/File.sol:Contract`. -/
  sourcePath : String
  address : Address
  optimizerRuns : UInt32
  /-- Whether the contract is a proxy, whose implementation has to be found first. -/
  isProxy : Bool
  deriving DecidableEq, Repr

namespace Record

/-- What identifies the record. -/
def key (r : Record) : Key := ⟨r.address, r.sourcePath⟩

/-! ## Writing -/

/-- A record as a JSON object. -/
def toJson (r : Record) : Json.Value :=
  .object [("sourcePath", .string r.sourcePath), ("address", .string r.address.lower),
    ("optimizerRuns", .ofNat r.optimizerRuns.toNat), ("isProxy", .bool r.isProxy)]

/-! ## Reading -/

end Record

/-- Closes the array behind the last byte of an address. Another number of a byte is one too many.
Anything else that stands there is given up wherever its reader stopped, and the array has to end at
that very place. -/
def closeBytes (first : Bool) (text : List Char) : Except Json.Stop (List Char) :=
  match Json.nextElement first text with
  | .ok none => Json.closeArray text
  | .error stop => Json.closeArray stop.rest
  | .ok (some text) =>
    match Json.readUnsigned 256 text with
    | .ok (_, rest) => Json.mismatch rest
    | .error stop => Json.closeArray stop.rest

/-- Reads the bytes of an address out of an array, one number each. -/
def readByteElements : (left : Nat) → (first : Bool) → (before : Bytes) → Json.Reader Bytes
  | 0, first, before, text => do .ok (before.reverse, ← closeBytes first text)
  | left + 1, first, before, text => do
    let (b, rest) ← Json.readElement first (Json.readUnsigned 256) text
    readByteElements left false (UInt8.ofNat b :: before) rest

/-- Reads an address: a string of hexadecimal digits, or an array of its 20 bytes. -/
def readAddress : Json.Reader Address := fun text =>
  match Json.skipGap text with
  -- An address may also be a list of its bytes.
  | '[' :: rest => do
    let (bytes, rest) ← readByteElements 20 true [] rest
    .ok (.ofBytes bytes, rest)
  | text => do
    let (content, rest) ← Json.readString text
    match Address.parse content with
    | .ok address => .ok (address, rest)
    | .error _ => Json.mismatch rest

/-- Reads a string of any content. -/
def readText : Json.Reader String := fun text =>
  (Json.readString text).map fun (content, rest) => (String.ofList content, rest)

/-- Reads a number of optimizer runs. -/
def readRuns : Json.Reader UInt32 := fun text =>
  (Json.readUnsigned (2 ^ 32) text).map fun (n, rest) => (UInt32.ofNat n, rest)

namespace Record

/-- The members of a record that have been read so far. -/
structure Partial where
  sourcePath : Option String
  address : Option Address
  optimizerRuns : Option UInt32
  isProxy : Option Bool

/-- Nothing read yet. -/
def Partial.empty : Partial := ⟨none, none, none, none⟩

/-- Reads the member with a given key. Each may be given once, and any other one is skipped. -/
def Partial.member (p : Partial) (key : List Char) : Json.Reader Partial := fun text =>
  let key := String.ofList key
  -- The path has two names, of which only one may be given.
  if key = "sourcePath" ∨ key = "path" then do
    let (v, rest) ← Json.readOnce p.sourcePath readText text
    .ok (⟨some v, p.address, p.optimizerRuns, p.isProxy⟩, rest)
  else if key = "address" then do
    let (v, rest) ← Json.readOnce p.address readAddress text
    .ok (⟨p.sourcePath, some v, p.optimizerRuns, p.isProxy⟩, rest)
  else if key = "optimizerRuns" then do
    let (v, rest) ← Json.readOnce p.optimizerRuns readRuns text
    .ok (⟨p.sourcePath, p.address, some v, p.isProxy⟩, rest)
  else if key = "isProxy" then do
    let (v, rest) ← Json.readOnce p.isProxy Json.readBool text
    .ok (⟨p.sourcePath, p.address, p.optimizerRuns, some v⟩, rest)
  else (Json.skipMember text).map fun rest => (p, rest)

/-- The record, if no member is missing that has to be there when the object
ends in front of `rest`. -/
def Partial.complete (p : Partial) (rest : List Char) : Except Json.Stop Record := do
  let sourcePath ← Json.required rest p.sourcePath
  let address ← Json.required rest p.address
  let runs ← Json.required rest p.optimizerRuns
  .ok ⟨sourcePath, address, runs, p.isProxy.getD false⟩

/-- Reads a record. -/
def read : Json.Reader Record := fun text =>
  match Json.skipGap text with
  -- A record may also be the list of its fields in their order.
  | '[' :: rest => do
    let (sourcePath, rest) ← Json.readElement true readText rest
    let (address, rest) ← Json.readElement false readAddress rest
    let (runs, rest) ← Json.readElement false readRuns rest
    let (isProxy, rest) ← Json.readLastElement false Json.readBool rest
    .ok (⟨sourcePath, address, runs, isProxy⟩, ← Json.closeArray rest)
  | '\x7b' :: rest => do
    let (p, rest) ← Json.readMembers Partial.member (Json.fuelFor rest) true .empty rest
    .ok (← p.complete rest, ← Json.closeObject rest)
  | text => Json.wrongType text

end Record

end Rollup.Contract
