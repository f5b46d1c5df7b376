/-
What a work list holds, by keys.

Of the candidates with one key the first stays, so that the keys to submit are the
keys of all candidates, each once: `nodup_firstOfKey`, `mem_keys_firstOfKey`. The
outcomes that are known from the start are those of the proxies without an
implementation, each under the key of its proxy; they never pass through the list
of keys seen so far. Whether the two groups meet is therefore a question about the
topology and the answers of the node, and `mem_keys_dispatch_iff_of_unresolved` is
its answer.
-/
import Rollup.Proofs.Contract.Validation
import Rollup.Proofs.Verify.Lookups
import Rollup.Verify.WorkList

set_option autoImplicit false

namespace Rollup.Verify

open Contract (Key Record Outcome Topology)

/-! ## The first of each key -/

/-- The keys that are left are those that were not seen before. -/
theorem mem_keys_firstOfKey {seen : List Key} {records : List Record} {k : Key} :
    k ∈ (firstOfKey seen records).map Record.key ↔ k ∈ records.map Record.key ∧ k ∉ seen := by
  induction records generalizing seen with
  | nil => simp [firstOfKey]
  | cons r rest ih =>
    rw [firstOfKey]
    by_cases h : r.key ∈ seen
    · rw [if_pos h, ih, List.map_cons, List.mem_cons]
      constructor
      · rintro ⟨hk, hs⟩
        exact ⟨.inr hk, hs⟩
      · rintro ⟨rfl | hk, hs⟩
        · exact absurd h hs
        · exact ⟨hk, hs⟩
    · -- The record is kept, and its key counts as seen behind it.
      rw [if_neg h, List.map_cons, List.mem_cons, ih, List.map_cons, List.mem_cons, List.mem_cons]
      constructor
      · rintro (rfl | ⟨hk, hs⟩)
        · exact ⟨.inl rfl, h⟩
        · exact ⟨.inr hk, fun hs' => hs (.inr hs')⟩
      · rintro ⟨rfl | hk, hs⟩
        · exact .inl rfl
        · by_cases hr : k = r.key
          · exact .inl hr
          · exact .inr ⟨hk, fun h' => h'.elim hr hs⟩

theorem nodup_firstOfKey (seen : List Key) (records : List Record) :
    ((firstOfKey seen records).map Record.key).Nodup := by
  induction records generalizing seen with
  | nil => exact List.nodup_nil
  | cons r rest ih =>
    rw [firstOfKey]
    by_cases h : r.key ∈ seen
    · rw [if_pos h]
      exact ih seen
    · rw [if_neg h, List.map_cons, List.nodup_cons]
      refine ⟨fun hk => ?_, ih _⟩
      exact (mem_keys_firstOfKey.mp hk).2 List.mem_cons_self

/-! ## Resolutions as candidates and as failures -/

theorem Resolution.key_failure {r : Resolution} {o : Outcome} (h : r.failure? = some o) :
    o.key = r.proxy.key := by
  unfold failure? at h
  split at h
  · cases h
  · cases h
    rfl

/-- A resolution with an address is a candidate, and one without is a failure. -/
theorem Resolution.failure?_eq_none_iff {r : Resolution} :
    r.failure? = none ↔ ∃ a, r.implementation = .ok a := by
  unfold failure?
  cases r.implementation with
  | ok a => simp
  | error reason => simp

theorem Resolution.implementationRecord?_eq_some_iff {r : Resolution} {x : Record} :
    r.implementationRecord? = some x ↔
      ∃ a, r.implementation = .ok a ∧
        x = ⟨r.proxy.sourcePath, a, r.proxy.optimizerRuns, false⟩ := by
  unfold implementationRecord?
  cases r.implementation with
  | ok a =>
    constructor
    · intro h
      cases h
      exact ⟨a, rfl, rfl⟩
    · rintro ⟨b, hb, rfl⟩
      cases hb
      rfl
  | error reason => simp

/-! ## The work list of a topology -/

namespace WorkList

/-- The work list of a topology whose proxies are looked up with these results. -/
def ofLookups (c : Config) (t : Topology) (look : Record → Lookup) : WorkList :=
  ofResolutions c (t.proxies.map fun p => .ofLookup p (look p)) t.contracts

variable (c : Config) (t : Topology) (look : Record → Lookup)

theorem nodup_keys_dispatch : ((ofLookups c t look).dispatch.map Record.key).Nodup :=
  nodup_firstOfKey _ _

/-- **The keys to submit**: one for each proxy as the proxy artifact, one for each implementation
that was found, and one for each contract. -/
theorem mem_keys_dispatch_iff {k : Key} :
    k ∈ (ofLookups c t look).dispatch.map Record.key ↔
      (∃ p ∈ t.proxies, k = ⟨p.address, c.proxyArtifact⟩) ∨
      (∃ p ∈ t.proxies, ∃ a, (look p).implementation = .ok a ∧ k = ⟨a, p.sourcePath⟩) ∨
      ∃ r ∈ t.contracts, k = r.key := by
  have hseen : k ∈ (ofLookups c t look).dispatch.map Record.key ↔
      k ∈ (candidates c (t.proxies.map fun p => .ofLookup p (look p)) t.contracts).map
        Record.key := by
    rw [ofLookups, ofResolutions, mem_keys_firstOfKey]
    simp only [List.not_mem_nil, not_false_eq_true, and_true]
  rw [hseen, candidates, List.map_append, List.map_append, List.mem_append, List.mem_append,
    or_assoc]
  -- The proxies themselves, what is behind them, and the contracts.
  refine or_congr ?_ (or_congr ?_ ?_)
  · simp only [List.map_map, List.mem_map, Function.comp_apply]
    exact ⟨fun ⟨p, hp, h⟩ => ⟨p, hp, h.symm⟩, fun ⟨p, hp, h⟩ => ⟨p, hp, h.symm⟩⟩
  · simp only [List.mem_map, List.mem_filterMap, Resolution.implementationRecord?_eq_some_iff]
    constructor
    · rintro ⟨x, ⟨r, ⟨p, hp, rfl⟩, a, ha, rfl⟩, rfl⟩
      exact ⟨p, hp, a, ha, rfl⟩
    · rintro ⟨p, hp, a, ha, rfl⟩
      exact ⟨_, ⟨_, ⟨p, hp, rfl⟩, a, ha, rfl⟩, rfl⟩
  · simp only [List.mem_map]
    exact ⟨fun ⟨r, hr, h⟩ => ⟨r, hr, h.symm⟩, fun ⟨r, hr, h⟩ => ⟨r, hr, h.symm⟩⟩

/-- The keys of the outcomes that are known from the start: those of the proxies without an
implementation. -/
theorem keys_unresolved :
    (ofLookups c t look).unresolved.map Outcome.key =
      (t.proxies.filter fun p => (Resolution.ofLookup p (look p)).failure?.isSome).map
        Record.key := by
  rw [ofLookups, ofResolutions]
  dsimp only
  -- Both sides go through the proxies in order and leave out those that have an implementation.
  induction t.proxies with
  | nil => rfl
  | cons p rest ih =>
    rw [List.map_cons, List.filterMap_cons, List.filter_cons]
    cases h : (Resolution.ofLookup p (look p)).failure? with
    | none => simpa using ih
    | some o =>
      simp only [List.map_cons, Option.isSome_some, if_true, List.cons.injEq]
      exact ⟨Resolution.key_failure h, ih⟩

theorem mem_keys_unresolved_iff {k : Key} :
    k ∈ (ofLookups c t look).unresolved.map Outcome.key ↔
      ∃ p ∈ t.proxies, (∀ a, (look p).implementation ≠ .ok a) ∧ p.key = k := by
  rw [keys_unresolved, List.mem_map]
  refine exists_congr fun p => ?_
  rw [List.mem_filter, and_assoc, Option.isSome_iff_ne_none, Ne,
    Resolution.failure?_eq_none_iff, not_exists]
  rfl

theorem nodup_keys_unresolved : ((ofLookups c t look).unresolved.map Outcome.key).Nodup := by
  rw [keys_unresolved]
  exact t.nodup_keys_proxies.sublist (List.filter_sublist.map _)

/-- **Where the two groups meet**: the key of a proxy without an implementation is submitted all the
same if the proxy is declared with the proxy artifact itself, or if another proxy of the same
artifact has its implementation at this address. A contract cannot have the key, because the
topology would not be valid. -/
theorem mem_keys_dispatch_iff_of_unresolved {p : Record} (hp : p ∈ t.proxies) :
    p.key ∈ (ofLookups c t look).dispatch.map Record.key ↔
      p.sourcePath = c.proxyArtifact ∨
      ∃ q ∈ t.proxies, (look q).implementation = .ok p.address ∧ q.sourcePath = p.sourcePath := by
  rw [mem_keys_dispatch_iff]
  simp only [Record.key, Key.mk.injEq]
  constructor
  -- The three groups in turn: proxies, implementations, contracts.
  · rintro (⟨q, -, -, h⟩ | ⟨q, hq, a, ha, rfl, h⟩ | ⟨r, hr, ha, hs⟩)
    · exact .inl h
    · exact .inr ⟨q, hq, ha, h.symm⟩
    · refine absurd ?_ (t.key_ne_of_proxy_of_contract hp hr)
      simp only [Record.key, Key.mk.injEq]
      exact ⟨ha, hs⟩
  · rintro (h | ⟨q, hq, ha, h⟩)
    · exact .inl ⟨p, hp, rfl, h⟩
    · exact .inr (.inl ⟨q, hq, p.address, ha, rfl, h.symm⟩)

end WorkList

theorem plan_eq_ofLookups (c : Config) (t : Topology) (look : Record → TimedLookup) :
    plan c t look = .ofLookups c t fun p => (look p).lookup := by
  rw [plan, resolve_eq_map]
  rfl

end Rollup.Verify
