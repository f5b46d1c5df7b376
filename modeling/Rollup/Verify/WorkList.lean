/-
What a run submits.

Every proxy is submitted as the generic proxy artifact at its own address, every
implementation that was found as the artifact of its proxy, and every plain
contract as it is declared, in this order. Of several entries with one key the
first one stays. A proxy without a known implementation is a failed outcome from
the start.
-/
import Rollup.Contract.Topology
import Rollup.Verify.Attempts
import Rollup.Verify.Resolution

set_option autoImplicit false

namespace Rollup.Verify

open Contract (Key Record Outcome Topology)

/-- The settings of a run. -/
structure Config where
  /-- How many records may be submitted at the same time; none counts as one. -/
  maxConcurrency : Nat
  retry : Retry
  /-- The slot in which a proxy keeps the address of its implementation. -/
  slot : Word
  /-- The artifact of all proxies. -/
  proxyArtifact : String
  /-- The optimizer runs of that artifact. -/
  proxyRuns : UInt32
  deriving DecidableEq

namespace Config

/-- The slot of the implementation: the hash of its name, less one. -/
def standardSlot : Word := 0x360894a13ba1a3210667c828492db98dca3e2076cc3735a920a3ca505d382bbc

/-- Four records at the same time, and one attempt each. -/
def standard : Config := ⟨4, .once, standardSlot, "src/universal/Proxy.sol:Proxy", 200⟩

/-- Settings in words. -/
def text (c : Config) : String :=
  Text.fields "OrchestratorConfig" [("max_concurrency", Text.decimal c.maxConcurrency),
    ("retry", c.retry.text), ("implementation_slot", c.slot.padded),
    ("proxy_artifact", Text.quoted c.proxyArtifact),
    ("proxy_optimizer_runs", Text.decimal c.proxyRuns.toNat)]

/-- A proxy as it is submitted. -/
def proxyRecord (c : Config) (r : Resolution) : Record :=
  ⟨c.proxyArtifact, r.proxy.address, c.proxyRuns, false⟩

end Config

/-- The records whose key is neither among the given ones nor that of an earlier record. -/
def firstOfKey (seen : List Key) : List Record → List Record
  | [] => []
  | r :: rest =>
    if r.key ∈ seen then firstOfKey seen rest else r :: firstOfKey (r.key :: seen) rest

/-- The failed outcome of a proxy without an implementation. -/
def Resolution.failure? (r : Resolution) : Option Outcome :=
  match r.implementation with
  | .ok _ => none
  | .error reason => some (.failed r.proxy.key reason)

/-- The records to submit and the outcomes that are known before. -/
structure WorkList where
  dispatch : List Record
  unresolved : List Outcome

namespace WorkList

/-- Everything that there is to submit, with repetitions. -/
def candidates (c : Config) (resolutions : List Resolution) (contracts : List Record) :
    List Record :=
  resolutions.map c.proxyRecord ++ resolutions.filterMap (·.implementationRecord?) ++ contracts

/-- The work list of proxies with their resolutions and of plain contracts. -/
def ofResolutions (c : Config) (resolutions : List Resolution) (contracts : List Record) :
    WorkList :=
  ⟨firstOfKey [] (candidates c resolutions contracts), resolutions.filterMap (·.failure?)⟩

end WorkList

/-- The work list of a topology. -/
def plan (c : Config) (t : Topology) (look : Record → TimedLookup) : WorkList :=
  .ofResolutions c (resolve t.proxies look) t.contracts

end Rollup.Verify
