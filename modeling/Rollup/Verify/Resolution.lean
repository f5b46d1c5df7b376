/-
Where proxies lead to.

A proxy keeps the address of its implementation in one of its storage slots: in the
low 20 bytes of a word whose other bytes are zero. The zero word is a slot that was
never written. The slots of all proxies are read at the same time, and a read may
end with a word, with an error, or be lost without an answer; every proxy gets a
resolution all the same, and the resolutions stand in the order of the proxies,
whatever the order in which the reads ended.
-/
import Rollup.Chain.Error
import Rollup.Contract.Record

set_option autoImplicit false

namespace Rollup.Verify

open Contract (Record)

/-- The address that a word of storage holds, if it holds one. -/
def implementation? (slot : Word) : Option Address :=
  if 0 < slot.toNat ∧ slot.toNat < 2 ^ 160 then some (.ofNat slot.toNat) else none

/-- How the read of the slot of a proxy ended. -/
inductive Lookup where
  | answered (answer : Except ChainError Word)
  /-- The task that read the slot broke down. -/
  | lost

/-- What is said of a proxy whose implementation is not known. -/
def unresolved : String := "unresolved implementation"

/-- The implementation that a lookup found, or why it found none. -/
def Lookup.implementation : Lookup → Except String Address
  | .answered (.ok slot) =>
    match implementation? slot with
    | some address => .ok address
    | none => .error unresolved
  | .answered (.error e) => .error (unresolved ++ ": " ++ e.message)
  | .lost => .error (unresolved ++ ": lookup task failed")

/-- A proxy with its implementation, or with the reason why there is none. -/
structure Resolution where
  proxy : Record
  implementation : Except String Address

namespace Resolution

/-- The resolution of a proxy by a lookup. -/
def ofLookup (proxy : Record) (l : Lookup) : Resolution := ⟨proxy, l.implementation⟩

/-- The implementation as a record: the artifact of the proxy, built the same way. -/
def implementationRecord? (r : Resolution) : Option Record :=
  match r.implementation with
  | .ok address => some ⟨r.proxy.sourcePath, address, r.proxy.optimizerRuns, false⟩
  | .error _ => none

end Resolution

/-! ## Lookups at the same time -/

/-- The resolutions of the proxies whose lookups ended with an answer, by the number of the
proxy. -/
def answered (proxies : List Record) (ended : List (Nat × Lookup)) : List (Nat × Resolution) :=
  ended.filterMap fun (i, l) =>
    match l with
    | .lost => none
    | .answered _ => (proxies[i]?).map fun p => (i, .ofLookup p l)

/-- The proxies whose lookups were lost, with their numbers. -/
def missing (proxies : List Record) (ended : List (Nat × Lookup)) : List (Record × Nat) :=
  proxies.zipIdx.filter fun (_, i) => i ∉ (answered proxies ended).map (·.1)

/-- The resolutions in the order of the proxies. -/
def arrange (known : List (Nat × Resolution)) (lost : List (Record × Nat)) : List Resolution :=
  let all := known ++ lost.map fun p => (p.2, .ofLookup p.1 .lost)
  (all.mergeSort fun a b => a.1 ≤ b.1).map (·.2)

/-- The resolutions of the proxies whose lookups ended in the given order. -/
def gather (proxies : List Record) (ended : List (Nat × Lookup)) : List Resolution :=
  arrange (answered proxies ended) (missing proxies ended)

/-- A lookup that takes some nanoseconds. -/
structure TimedLookup where
  delay : Nat
  lookup : Lookup

/-- The numbers of the proxies in the order in which their lookups end. -/
def completionOrder (proxies : List Record) (look : Record → TimedLookup) : List (Record × Nat) :=
  proxies.zipIdx.mergeSort fun a b => (look a.1).delay ≤ (look b.1).delay

/-- The resolutions of all proxies. -/
def resolve (proxies : List Record) (look : Record → TimedLookup) : List Resolution :=
  gather proxies ((completionOrder proxies look).map fun (p, i) => (i, (look p).lookup))

/-- How long the lookups of all proxies take together. -/
def lookupSpan (proxies : List Record) (look : Record → TimedLookup) : Nat :=
  proxies.foldl (fun t p => max t (look p).delay) 0

end Rollup.Verify
