/-
The program on a real system.

Only what has to touch the system stands here: arguments, variables of the
environment, the one file that a command reads, and the two streams. Neither other
programs nor the network are used: a program is not found, and a node refuses all
connections.
-/
import Rollup.CommandLine.Program

set_option autoImplicit false

namespace Rollup

/-- A failure of the system while a file is read. -/
def SystemError.ofReading : IO.Error → SystemError
  | .noFileOrDirectory _ _ _ => .noSuchFile
  | .permissionDenied _ _ _ => .noPermission
  | .inappropriateType _ _ _ => .isADirectory
  | e => .refused e.toString

/-- What stands at a path. -/
def Entry.ofSystem (path : String) : IO (Except SystemError Entry) := do
  try
    return .ok (.file (← IO.FS.readBinFile path).toList)
  catch e => return .error (.ofReading e)

/-- The file that a command reads, if it reads one. -/
def CommandLine.Command.file? : Command → Option String
  | .estimate c => c.priceFile
  | .verify c => some c.topology

/-- The files that a command line reads. -/
def Files.ofSystem (env : CommandLine.Environment) (args : List String) : IO Files := do
  match CommandLine.parse env args with
  | .error _ => return .none
  | .ok invocation =>
    match invocation.command.file? with
    | some path =>
      let entry ← Entry.ofSystem path
      return ⟨fun _ => entry⟩
    | _ => return .none

end Rollup

open Rollup in
/-- The program. -/
def main (args : List String) : IO UInt32 := do
  let env : CommandLine.Environment := ⟨← IO.getEnv "RPC_URL", ← IO.getEnv "EXPLORER_URL",
    ← IO.getEnv "API_KEY"⟩
  let files ← Files.ofSystem env args
  let (ending, transcript) := CommandLine.run env
    ⟨files, Chain.Endpoint.closed, fun _ _ _ => .error .noSuchFile⟩ args
  IO.print transcript.output
  match ending.message? with
  | some message => IO.eprintln message
  | none => pure ()
  return UInt32.ofNat ending.status
