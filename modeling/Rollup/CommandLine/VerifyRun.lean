/-
Verifying the contracts of a topology.

The node is asked only if there are proxies, once for each of them, and before
anything is submitted. What goes wrong with single contracts is in the report; the
exit status tells of it only if that was asked for.
-/
import Rollup.CommandLine.Session
import Rollup.CommandLine.VerifyCommand
import Rollup.Verify.Run

set_option autoImplicit false

namespace Rollup.CommandLine

open Contract (Record Report Topology)

/-- Why nothing was verified. -/
inductive VerifyFailure where
  | topology (cause : Contract.TopologyError)
  | chain (cause : ChainError)
  /-- There are proxies, but no node to ask. -/
  | missingUrl
  /-- More records than permits can be counted may be submitted at the same time. -/
  | crash

/-- What is wrong, in words, as far as the words are this library's. -/
def VerifyFailure.message? : VerifyFailure → Option String
  | .topology cause => cause.message?
  | .chain cause => some cause.message
  | .missingUrl => some "missing --rpc-url: proxy implementations are read from the node"
  | .crash => none

/-- An action of the command. -/
abbrev Verifying (α : Type) := Action VerifyFailure α

namespace VerifyCommand

/-- The node that the implementations are read from. -/
def connect (c : VerifyCommand) (world : World) : Verifying Chain.Node :=
  match c.node.url with
  | none => Action.fail .missingUrl
  | some url =>
    match Chain.Endpoint.connect url with
    | .ok endpoint => Action.ofExcept (.ok (world.node endpoint))
    | .error e => Action.fail (.chain e)

/-- The read of the slot of a proxy. -/
def slotRun (c : VerifyCommand) (node : Chain.Node) (proxy : Record) : Chain.Run Word :=
  (⟨c.node.policy⟩ : Chain.Client).storage node proxy.address c.config.slot

/-- The lookup of a proxy. -/
def lookup (c : VerifyCommand) (node : Chain.Node) (proxy : Record) : Verify.TimedLookup :=
  let run := c.slotRun node proxy
  ⟨run.finish, .answered run.answer⟩

/-- Reads the slots of all proxies. -/
def readSlots (c : VerifyCommand) (node : Chain.Node) (proxies : List Record) : Verifying Unit :=
  ExceptT.mk fun t => (.ok (), { t with
    requests := t.requests ++ proxies.flatMap fun proxy =>
      (c.slotRun node proxy).starts.map fun _ => .storage proxy.address c.config.slot })

/-- The work list of a topology. -/
def plan (c : VerifyCommand) (world : World) (t : Topology) : Verifying Verify.WorkList :=
  if t.hasProxies then do
    let node ← c.connect world
    c.readSlots node t.proxies
    Action.ofExcept (.ok (Verify.plan c.config t (c.lookup node)))
  else Action.ofExcept (.ok (Verify.plan c.config t fun _ => ⟨0, .answered (.ok 0)⟩))

/-- The course of the submissions of a record. -/
def course (c : VerifyCommand) (world : World) (r : Record) : Verify.Course :=
  c.config.retry.course r (c.forgeConfig.answer world.launcher r)

/-- How many of the submissions of a record the program is started for. -/
def starts (c : VerifyCommand) (world : World) (r : Record) : Nat :=
  (List.range' 1 (c.course world r).calls).countP (c.forgeConfig.isStarted world.launcher r)

/-- Submits a record as often as it takes. -/
def submit (c : VerifyCommand) (world : World) (r : Record) : Verifying Contract.Outcome := do
  Action.start c.forgeConfig.program (c.forgeConfig.arguments r) (c.starts world r)
  Action.ofExcept (.ok ((c.course world r).settle r))

/-- The report on a topology. -/
def report (c : VerifyCommand) (world : World) (t : Topology) : Verifying Report := do
  let work ← c.plan world t
  match c.config.permits? with
  | none => Action.fail .crash
  | some _ =>
    let outcomes ← work.dispatch.mapM (c.submit world)
    Action.ofExcept (.ok (work.report outcomes))

/-- A report as it is printed. -/
def shown (c : VerifyCommand) (r : Report) : String :=
  if c.json then String.ofList (r.toJson.pretty 0) else r.text

/-- The whole command, with its exit status. -/
def run (c : VerifyCommand) (world : World) : Verifying Nat := do
  let t ← Action.ofExcept ((Topology.load world.files c.topology).mapError .topology)
  let report ← c.report world t
  Action.print (c.shown report)
  Action.ofExcept (.ok (if c.failOnError && !report.isSuccess then 1 else 0))

end VerifyCommand

end Rollup.CommandLine
