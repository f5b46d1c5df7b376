/-
Submitting records with the program `forge`.

The program is run once for each submission, with arguments that name the service,
the address and the artifact. It succeeded if it ended in time with the status zero.
Otherwise the last line that is not blank, of its errors or else of its output,
says why not. The deadline is measured by a timer, and a program that has not ended by
then is killed. What a program does is given as a function, and it may do something else
every time it is run.
-/
import Rollup.Text.Blank
import Rollup.Text.Fields
import Rollup.Text.Parts
import Rollup.Text.Quoted
import Rollup.Text.Utf8
import Rollup.Verify.Dispatch
import Rollup.Wait

set_option autoImplicit false

namespace Rollup.Forge

open Contract (Record)
open Verify (Failure)

/-! ## Programs -/

/-- When a program ends, and how. -/
structure Ending where
  delay : Wait.Delay
  /-- The exit status; none, if a signal killed the program. -/
  status? : Option Int
  deriving DecidableEq, Repr

namespace Ending

/-- It exits at once. -/
def exited (status : Int) : Ending := ⟨.after 0, some status⟩

/-- A signal kills it at once. -/
def killed : Ending := ⟨.after 0, none⟩

/-- It runs until it is killed. -/
def hanging : Ending := ⟨.never, none⟩

end Ending

/-- What a program does: what it writes, and when and how it ends. -/
structure Execution where
  output : Bytes
  errors : Bytes
  ending : Ending

/-- What comes of running a program with arguments, by the number of the run from one on. -/
abbrev Launcher := String → List String → Nat → Except SystemError Execution

/-! ## The command -/

/-- How the program is run. -/
structure Config where
  program : String
  /-- The address of the verification service. -/
  verifierUrl : String
  apiKey : String
  /-- The project that holds the artifacts. -/
  root : String
  /-- How long one submission may take. -/
  timeout : Duration
  deriving DecidableEq

namespace Config

/-- The program of the search path on the working directory, with five minutes. -/
def standard (verifierUrl apiKey : String) : Config :=
  ⟨"forge", verifierUrl, apiKey, ".", .ofSeconds 300⟩

/-- The arguments that submit a record. -/
def arguments (c : Config) (r : Record) : List String :=
  ["verify-contract", "--verifier-url", c.verifierUrl, r.address.checksum, r.sourcePath,
    "--root", c.root, "--optimizer-runs", Text.decimal r.optimizerRuns.toNat,
    "--etherscan-api-key", c.apiKey]

/-- The settings in words, without the key. -/
def text (c : Config) : String :=
  Text.fields "ForgeConfig" [("forge", Text.quoted c.program),
    ("verifier_url", Text.quoted c.verifierUrl), ("api_key", Text.quoted "<redacted>"),
    ("root", Text.quoted c.root), ("timeout", c.timeout.text)]

/-- The verifier in words. -/
def verifierText (c : Config) : String := Text.fields "ForgeVerifier" [("config", c.text)]

end Config

/-! ## Submitting -/

/-- The lines of a text, which end at line feeds. -/
def lines (text : List Char) : List (List Char) := Text.parts '\n' text

/-- The last line that is not blank, without the blanks around it. -/
def lastLine? (written : Bytes) : Option String :=
  let trimmed := (lines (Text.decodeLossy written)).map Text.trim
  (trimmed.reverse.find? fun line => !line.isEmpty).map String.ofList

/-- The line that says why a program failed; empty, if it wrote none. -/
def diagnosis (e : Execution) : String :=
  ((lastLine? e.errors).or (lastLine? e.output)).getD ""

/-- Whether a program ends before the time is up. None does before a time of no length is. -/
def Execution.isInTime (limit : Duration) (e : Execution) : Bool :=
  limit.nanos ≠ 0 && (e.ending.delay.within? (Wait.span limit.nanos)).isSome

/-- What a submission comes to that the program was run for. -/
def Execution.judge (limit : Duration) (e : Execution) : Except Failure Unit :=
  if !e.isInTime limit then .error (.timeout limit)
  else if e.ending.status? = some 0 then .ok ()
  else .error (.rejected e.ending.status? (diagnosis e))

/-- Whether a text has a null character, which no argument of a program can have. -/
def hasNul (s : String) : Bool := s.toList.any (·.toNat = 0)

/-- Runs a program for the `n`-th time, unless its name or an argument has a null character. -/
def launch (launcher : Launcher) (program : String) (arguments : List String) (n : Nat) :
    Except SystemError Execution :=
  if (program :: arguments).any hasNul then .error .nulInArgument else launcher program arguments n

namespace Config

variable (c : Config) (launcher : Launcher) (r : Record)

/-- Submits a record for the `n`-th time. -/
def attempt (n : Nat) : Except Failure Unit :=
  match launch launcher c.program (c.arguments r) n with
  | .error cause => .error (.spawn c.program cause)
  | .ok execution => execution.judge c.timeout

/-- The answer of the program to the `n`-th submission. -/
def answer (n : Nat) : Verify.Answer :=
  match c.attempt launcher r n with
  | .ok () => .accepted
  | .error e => .failed e

/-- Whether the program is started at all for the `n`-th submission. -/
def isStarted (n : Nat) : Bool := (launch launcher c.program (c.arguments r) n).isOk

/-- Submits a record once. -/
def submit : Except Failure Unit := c.attempt launcher r 1

/-- Whether the program is started at all for a record that is submitted once. -/
def starts : Bool := c.isStarted launcher r 1

end Config

end Rollup.Forge
