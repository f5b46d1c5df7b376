/-
What a command does that can be seen from outside.

A session prints lines, sends requests to nodes and starts programs, and keeps a
record of all of it. An action within a session goes on until it fails; what was
done before stays in the record.
-/
import Rollup.Chain.Endpoint
import Rollup.Forge

set_option autoImplicit false

namespace Rollup.CommandLine

/-- What a command can see: files, nodes, and programs. -/
structure World where
  files : Files
  /-- The node at an endpoint. -/
  node : Chain.Endpoint → Chain.Node
  launcher : Forge.Launcher

/-- What a command has done. -/
structure Transcript where
  /-- What was printed, line by line. -/
  lines : List String
  /-- Every request that was sent. -/
  requests : List Chain.Request
  /-- Every program that was started, with its arguments. -/
  programs : List (String × List String)

/-- Nothing done. -/
def Transcript.empty : Transcript := ⟨[], [], []⟩

/-- What was printed. -/
def Transcript.output (t : Transcript) : String := String.join (t.lines.map (· ++ "\n"))

/-- An action that may fail. -/
abbrev Action (ε α : Type) := ExceptT ε (StateM Transcript) α

namespace Action

variable {ε α : Type}

/-- An action that only has a result. -/
def ofExcept (r : Except ε α) : Action ε α := ExceptT.mk fun t => (r, t)

/-- An action that fails. -/
def fail (e : ε) : Action ε α := ofExcept (.error e)

/-- Prints a line. -/
def print (line : String) : Action ε Unit :=
  ExceptT.mk fun t => (.ok (), { t with lines := t.lines ++ [line] })

/-- Sends a request as often as a run does. -/
def send (request : Chain.Request) (run : Chain.Run α) (wrap : ChainError → ε) : Action ε α :=
  ExceptT.mk fun t => (run.answer.mapError wrap,
    { t with requests := t.requests ++ run.starts.map fun _ => request })

/-- Starts a program so many times with some arguments. -/
def start (program : String) (arguments : List String) (times : Nat) : Action ε Unit :=
  ExceptT.mk fun t =>
    (.ok (), { t with programs := t.programs ++ List.replicate times (program, arguments) })

end Action

end Rollup.CommandLine
