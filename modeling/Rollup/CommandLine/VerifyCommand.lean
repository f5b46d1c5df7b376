/-
The command that verifies the contracts of a topology, as it is given.

The address of the verification service and its key have to be given, as parameters
or by the environment.
-/
import Rollup.CommandLine.Settings
import Rollup.Forge

set_option autoImplicit false

namespace Rollup.CommandLine

/-- What is given to the command. -/
structure VerifyFlags where
  log : LogFlags
  node : NodeFlags
  topology : Option String
  verifierUrl : Option String
  apiKey : Option String
  root : Option String
  forge : Option String
  verifyTimeout : Option UInt64
  concurrency : Option UInt64
  attempts : Option UInt32
  retryBackoff : Option UInt64
  proxyArtifact : Option String
  proxyRuns : Option UInt32
  json : Bool
  failOnError : Bool

/-- The command. -/
structure VerifyCommand where
  /-- The file of the topology. -/
  topology : String
  node : NodeSettings
  verifierUrl : String
  apiKey : String
  /-- The project that holds the artifacts. -/
  root : String
  /-- The program that submits. -/
  forge : String
  /-- How many seconds a submission may take. -/
  verifyTimeout : UInt64
  /-- How many records may be submitted at the same time. -/
  concurrency : UInt64
  /-- How often a record may be submitted. -/
  attempts : UInt32
  /-- How many seconds the first pause takes. -/
  retryBackoff : UInt64
  proxyArtifact : String
  proxyRuns : UInt32
  /-- Whether the report is printed as JSON. -/
  json : Bool
  /-- Whether a failed record is a failure of the command. -/
  failOnError : Bool
  deriving DecidableEq

namespace VerifyFlags

/-- Nothing given. -/
def none : VerifyFlags :=
  ⟨.none, .none, Option.none, Option.none, Option.none, Option.none, Option.none, Option.none,
    Option.none, Option.none, Option.none, Option.none, Option.none, false, false⟩

/-- The grammar of the command. -/
def grammar : Grammar VerifyFlags where
  parameters :=
    [helpParameter] ++ logParameters (·.log) (fun log s => { s with log := log }) ++
      nodeParameters (·.node) (fun node s => { s with node := node }) ++
      [valueParameter "verifier-url" (·.verifierUrl) CommandLine.text
          fun t s => { s with verifierUrl := some t },
        valueParameter "api-key" (·.apiKey) CommandLine.text fun t s => { s with apiKey := some t },
        valueParameter "root" (·.root) path fun t s => { s with root := some t },
        valueParameter "forge" (·.forge) path fun t s => { s with forge := some t },
        valueParameter "verify-timeout" (·.verifyTimeout) number64
          fun n s => { s with verifyTimeout := some n },
        (valueParameter "concurrency" (·.concurrency) positive64
          fun n s => { s with concurrency := some n }).withShort 'j',
        valueParameter "attempts" (·.attempts) positive32 fun n s => { s with attempts := some n },
        valueParameter "retry-backoff" (·.retryBackoff) number64
          fun n s => { s with retryBackoff := some n },
        valueParameter "proxy-artifact" (·.proxyArtifact) CommandLine.text
          fun t s => { s with proxyArtifact := some t },
        valueParameter "proxy-optimizer-runs" (·.proxyRuns) number32
          fun n s => { s with proxyRuns := some n },
        switchParameter "json" (·.json) fun s => { s with json := true },
        switchParameter "fail-on-error" (·.failOnError) fun s => { s with failOnError := true }]
  operand := some fun t s => do .ok { s with topology := some (← path t) }
  subcommands := []

/-- The command, with everything that was not given. -/
def complete (f : VerifyFlags) (env : Environment) : Except Usage VerifyCommand :=
  match f.verifierUrl.or env.explorerUrl, f.apiKey.or env.apiKey with
  | some verifierUrl, some apiKey => .ok {
      topology := f.topology.getD "topologies/op-predeploys.json"
      node := f.node.complete env
      verifierUrl := verifierUrl
      apiKey := apiKey
      root := f.root.getD "."
      forge := f.forge.getD "forge"
      verifyTimeout := f.verifyTimeout.getD 300
      concurrency := f.concurrency.getD 4
      attempts := f.attempts.getD 1
      retryBackoff := f.retryBackoff.getD 30
      proxyArtifact := f.proxyArtifact.getD Verify.Config.standard.proxyArtifact
      proxyRuns := f.proxyRuns.getD Verify.Config.standard.proxyRuns
      json := f.json
      failOnError := f.failOnError }
  | _, _ => .error .missingParameter

end VerifyFlags

namespace VerifyCommand

/-- How the program that submits is run. -/
def forgeConfig (c : VerifyCommand) : Forge.Config :=
  ⟨c.forge, c.verifierUrl, c.apiKey, c.root, .ofSeconds c.verifyTimeout.toNat⟩

/-- The settings of the run. -/
def config (c : VerifyCommand) : Verify.Config :=
  { Verify.Config.standard with
    maxConcurrency := c.concurrency.toNat
    retry := ⟨c.attempts, .ofSeconds c.retryBackoff.toNat⟩
    proxyArtifact := c.proxyArtifact
    proxyRuns := c.proxyRuns }

/-- The command in words. -/
def text (c : VerifyCommand) : String :=
  Text.fields "Cmd" [("topology", Text.quoted c.topology), ("rpc", c.node.text),
    ("verifier_url", Text.quoted c.verifierUrl), ("api_key", Text.quoted c.apiKey),
    ("root", Text.quoted c.root), ("forge", Text.quoted c.forge),
    ("verify_timeout", Text.decimal c.verifyTimeout.toNat),
    ("concurrency", Text.decimal c.concurrency.toNat), ("attempts", Text.decimal c.attempts.toNat),
    ("retry_backoff", Text.decimal c.retryBackoff.toNat),
    ("proxy_artifact", Text.quoted c.proxyArtifact),
    ("proxy_optimizer_runs", Text.decimal c.proxyRuns.toNat), ("json", Text.boolText c.json),
    ("fail_on_error", Text.boolText c.failOnError)]

end VerifyCommand

end Rollup.CommandLine
