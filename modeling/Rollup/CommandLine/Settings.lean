/-
Settings that several commands share: logging, the node, and the environment.

Settings of logging may be given in front of the subcommand and behind it, and those
behind it count. A variable of the environment stands in for a parameter that is not
given.
-/
import Rollup.Chain.Retry
import Rollup.CommandLine.Values
import Rollup.Text.Quoted

set_option autoImplicit false

namespace Rollup.CommandLine

/-- The variables of the environment that stand in for parameters. -/
structure Environment where
  rpcUrl : Option String
  explorerUrl : Option String
  apiKey : Option String

variable {σ : Type}

/-! ## Logging -/

/-- The format of log lines. -/
inductive LogFormat where
  | full
  | compact
  | json
  deriving DecidableEq, Repr

/-- The format of a name. -/
def LogFormat.read : ValueReader LogFormat := fun name =>
  if name = "full" then .ok .full
  else if name = "compact" then .ok .compact
  else if name = "json" then .ok .json
  else .error .invalidValue

/-- A format in words. -/
def LogFormat.text : LogFormat → String
  | .full => "Full"
  | .compact => "Compact"
  | .json => "Json"

/-- The settings of logging, as far as they are given. -/
structure LogFlags where
  verbosity : Option Nat
  format : Option LogFormat

/-- The settings of logging. -/
structure Logging where
  /-- How often more of it was asked for. -/
  verbosity : Nat
  format : LogFormat
  deriving DecidableEq, Repr

/-- No settings. -/
def LogFlags.none : LogFlags := ⟨Option.none, Option.none⟩

/-- The greatest verbosity that is counted. -/
def greatestVerbosity : Nat := 255

/-- More verbosity. -/
def LogFlags.more (f : LogFlags) : LogFlags :=
  { f with verbosity := some (min greatestVerbosity (f.verbosity.getD 0 + 1)) }

/-- The parameters of logging within larger settings. -/
def logParameters (get : σ → LogFlags) (set : LogFlags → σ → σ) : List (Parameter σ) :=
  [⟨"verbose", some 'v', false, .counter fun s => set (get s).more s⟩,
    valueParameter "log-format" (fun s => (get s).format) LogFormat.read
      fun format s => set { get s with format := some format } s]

/-- The settings in front of a subcommand and behind it, taken together. -/
def LogFlags.complete (front behind : LogFlags) : Logging :=
  ⟨(behind.verbosity.or front.verbosity).getD 0, (behind.format.or front.format).getD .full⟩

/-- The settings of logging in words. -/
def Logging.text (l : Logging) : String :=
  Text.fields "LoggingArgs" [("verbosity", Text.decimal l.verbosity), ("format", l.format.text)]

/-- The most detailed level that is logged. -/
def Logging.level (l : Logging) : String :=
  match l.verbosity with
  | 0 => "warn"
  | 1 => "info"
  | 2 => "debug"
  | _ => "trace"

/-! ## The node -/

/-- The settings of the node, as far as they are given. -/
structure NodeFlags where
  url : Option String
  attempts : Option UInt32
  timeout : Option UInt64

/-- The settings of the node. -/
structure NodeSettings where
  /-- Where it is reached. -/
  url : Option String
  /-- How many attempts a request has. -/
  attempts : UInt32
  /-- How many seconds an attempt may take. -/
  timeout : UInt64
  deriving DecidableEq, Repr

/-- No settings. -/
def NodeFlags.none : NodeFlags := ⟨Option.none, Option.none, Option.none⟩

/-- The parameters of the node within larger settings. -/
def nodeParameters (get : σ → NodeFlags) (set : NodeFlags → σ → σ) : List (Parameter σ) :=
  [valueParameter "rpc-url" (fun s => (get s).url) CommandLine.text
      fun url s => set { get s with url := some url } s,
    valueParameter "rpc-attempts" (fun s => (get s).attempts) positive32
      fun n s => set { get s with attempts := some n } s,
    valueParameter "rpc-timeout" (fun s => (get s).timeout) number64
      fun n s => set { get s with timeout := some n } s]

/-- The settings with everything that was not given. -/
def NodeFlags.complete (f : NodeFlags) (env : Environment) : NodeSettings :=
  ⟨f.url.or env.rpcUrl, f.attempts.getD 3, f.timeout.getD 10⟩

namespace NodeSettings

/-- The policy of all requests. -/
def policy (s : NodeSettings) : Chain.Policy :=
  { Chain.Policy.standard with maxAttempts := s.attempts, timeout := .ofSeconds s.timeout.toNat }

/-- The settings in words. -/
def text (s : NodeSettings) : String :=
  Text.fields "RpcArgs" [("rpc_url", Text.optionText (s.url.map Text.quoted)),
    ("rpc_attempts", Text.decimal s.attempts.toNat), ("rpc_timeout", Text.decimal s.timeout.toNat)]

end NodeSettings

end Rollup.CommandLine
