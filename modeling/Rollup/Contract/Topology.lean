/-
Topologies: validated lists of records.

Every record of a topology names an artifact and was compiled with at least one
optimizer run, and no two records have the same key. Validation goes through the
records in order and stops at the first one that breaks a rule; of several rules
that one record breaks, a blank artifact counts before missing runs, and these
before a repeated key.
-/
import Rollup.Contract.Record
import Rollup.Files
import Rollup.Text.Blank

set_option autoImplicit false

namespace Rollup.Contract

/-- Why there is no topology. -/
inductive TopologyError where
  /-- The file could not be read. -/
  | unreadable (path : String) (cause : SystemError)
  /-- The text is not a JSON array of records. -/
  | json (fault : Json.Fault)
  /-- A record names no artifact. -/
  | blankSource (address : Address)
  /-- A record was compiled without optimizer runs. -/
  | zeroRuns (key : Key)
  /-- A record has the key of an earlier one. -/
  | duplicate (key : Key)
  deriving DecidableEq

/-- What is wrong, in words, as far as the words are this library's. -/
def TopologyError.message? : TopologyError → Option String
  | .unreadable path cause =>
    some ("failed to read topology " ++ path ++ ": " ++ cause.message)
  | .json _ => none
  | .blankSource address =>
    some ("record at " ++ address.checksum ++ " has an empty source path")
  | .zeroRuns key => some ("record " ++ key.text ++ " has zero optimizer runs")
  | .duplicate key => some ("duplicate record " ++ key.text)

/-- What a record breaks, given the keys before it. -/
def Record.check (seen : List Key) (r : Record) : Except TopologyError Unit :=
  if Text.isAllBlank r.sourcePath.toList then .error (.blankSource r.address)
  else if r.optimizerRuns = 0 then .error (.zeroRuns r.key)
  else if r.key ∈ seen then .error (.duplicate r.key)
  else .ok ()

/-- Checks records in order, given the keys before them. -/
def checkAll (seen : List Key) : List Record → Except TopologyError Unit
  | [] => .ok ()
  | r :: rest =>
    match r.check seen with
    | .error e => .error e
    | .ok () => checkAll (r.key :: seen) rest

/-- A validated list of records. -/
structure Topology where
  /-- All records, in the order of their declaration. -/
  records : List Record
  /-- They pass the check. -/
  valid : checkAll [] records = .ok ()

namespace Topology

/-- Validates records. -/
def ofRecords (records : List Record) : Except TopologyError Topology :=
  match h : checkAll [] records with
  | .ok () => .ok ⟨records, h⟩
  | .error e => .error e

/-- No records. -/
def empty : Topology := ⟨[], rfl⟩

/-- Reads a JSON array of records. -/
def parse (text : List Char) : Except TopologyError Topology :=
  match Json.readText (Json.readArray Record.read) text with
  | .ok records => ofRecords records
  | .error fault => .error (.json fault)

/-- Reads a file. -/
def load (files : Files) (path : String) : Except TopologyError Topology :=
  match files.readText path with
  | .ok text => parse text.toList
  | .error cause => .error (.unreadable path cause)

/-- The proxies, in order. -/
def proxies (t : Topology) : List Record := t.records.filter (·.isProxy)

/-- The contracts that are no proxies, in order. -/
def contracts (t : Topology) : List Record := t.records.filter fun r => !r.isProxy

/-- Whether any record is a proxy. -/
def hasProxies (t : Topology) : Bool := t.records.any (·.isProxy)

/-- The records as a JSON array. -/
def toJson (t : Topology) : Json.Value := .array (t.records.map Record.toJson)

end Topology

end Rollup.Contract
