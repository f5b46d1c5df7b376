/-
Whole command lines: logging settings, then one of the subcommands.

Of several mistakes the first one from the left counts, with two exceptions that
come last: parameters that exclude each other, and parameters that are missing. What
is wrong behind the subcommand is reported before a value in front of it that has
not been used yet.
-/
import Rollup.CommandLine.EstimateCommand
import Rollup.CommandLine.VerifyCommand

set_option autoImplicit false

namespace Rollup.CommandLine

/-- One of the commands. -/
inductive Command where
  | estimate (c : EstimateCommand)
  | verify (c : VerifyCommand)

/-- A command line that makes sense. -/
structure Invocation where
  command : Command
  logging : Logging

namespace Command

/-- A command in words. -/
def text : Command → String
  | .estimate c => c.text
  | .verify c => c.text

/-- The settings of the node. -/
def node : Command → NodeSettings
  | .estimate c => c.node
  | .verify c => c.node

end Command

/-- The names of the subcommands. -/
def subcommands : List String := ["estimate", "verify", "help"]

/-- What can stand in front of a subcommand. -/
def topGrammar : Grammar LogFlags where
  parameters := [helpParameter, versionParameter] ++ logParameters id fun log _ => log
  operand := none
  subcommands := subcommands

/-- Reads all arguments by a grammar without subcommands. -/
def collect {σ : Type} (g : Grammar σ) (start : σ) (args : List String) : Except Usage σ := do
  let (scan, _) ← (Scan.start start).read g args
  .ok (← scan.resolve).values

/-- What comes of asking for help on something. -/
def helpOn : List String → Usage
  | [] => .help
  | [topic] => if topic ∈ subcommands then .help else .invalidSubcommand
  | _ => .invalidSubcommand

/-- Reads the arguments of a subcommand. -/
def readCommand (env : Environment) (name : String) (args : List String) :
    Except Usage (Command × LogFlags) :=
  if name = "estimate" then do
    let flags ← collect EstimateFlags.grammar .none args
    .ok (.estimate (← flags.complete env), flags.log)
  else if name = "verify" then do
    let flags ← collect VerifyFlags.grammar .none args
    .ok (.verify (← flags.complete env), flags.log)
  else .error (helpOn args)

/-- Reads a command line. -/
def parse (env : Environment) (args : List String) : Except Usage Invocation := do
  match ← (Scan.start LogFlags.none).read topGrammar args with
  | (scan, some (name, rest)) =>
    let (command, behind) ← readCommand env name rest
    .ok ⟨command, (← scan.resolve).values.complete behind⟩
  | (scan, none) =>
    let front := (← scan.resolve).values
    -- Without any argument help is shown; with flags only, a subcommand is missing.
    if front.verbosity.isNone && front.format.isNone then .error .nothingGiven
    else .error .missingSubcommand

end Rollup.CommandLine
