/-
The program as a whole: from arguments to an exit status.

The status is zero for success, one for a failure of a command or for failed records
that count as one, two for arguments that make no sense, and 101 if something broke
down.
-/
import Rollup.CommandLine.EstimateRun
import Rollup.CommandLine.Invocation
import Rollup.CommandLine.VerifyRun

set_option autoImplicit false

namespace Rollup.CommandLine

/-- How a program run ends. -/
inductive Ending where
  /-- The arguments are not run as a command. -/
  | usage (u : Usage)
  | estimateFailed (e : EstimateFailure)
  | verifyFailed (e : VerifyFailure)
  | finished (status : Nat)

/-- The exit status. -/
def Ending.status : Ending → Nat
  | .usage u => u.status
  | .estimateFailed _ => 1
  | .verifyFailed .crash => 101
  | .verifyFailed _ => 1
  | .finished status => status

/-- What is wrong, in words. -/
def Ending.message? : Ending → Option String
  | .estimateFailed e => some e.message
  | .verifyFailed e => e.message?
  | _ => none

/-- The command of an invocation. -/
def Command.run (world : World) : Command → Ending × Transcript
  | .estimate c =>
    match (c.run world).run Transcript.empty with
    | (.ok (), t) => (.finished 0, t)
    | (.error e, t) => (.estimateFailed e, t)
  | .verify c =>
    match (c.run world).run Transcript.empty with
    | (.ok status, t) => (.finished status, t)
    | (.error e, t) => (.verifyFailed e, t)

/-- The line that tells the version. -/
def versionLine : String := "l2ops 0.1.0"

/-- What is printed instead of running a command. -/
def Usage.transcript : Usage → Transcript
  | .version => { Transcript.empty with lines := [versionLine] }
  | _ => .empty

/-- The whole program. -/
def run (env : Environment) (world : World) (args : List String) : Ending × Transcript :=
  match parse env args with
  | .ok invocation => invocation.command.run world
  | .error u => (.usage u, u.transcript)

end Rollup.CommandLine
