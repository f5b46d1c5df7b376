/-
What becomes of the contracts in a work list.

Contracts come last among the candidates, and of several candidates with one key the first one
stays. The records that come before them are derived from the proxies: each proxy as the proxy
artifact, and each implementation as the artifact of its proxy. A key does not say how many
optimizer runs a record was compiled with, so a derived record that has the key of a contract
stands for it and keeps its own runs (`WorkList.contracts_kept_iff`).

No two contracts have the same key, because the topology would not be valid. So a contract gives
way to derived records only, never to another contract.
-/
import Rollup.Proofs.Verify.Planning

set_option autoImplicit false

namespace Rollup.Verify

open Contract (Key Record Outcome Topology)

namespace WorkList

variable (c : Config) (t : Topology) (look : Record → Lookup)

/-- The records that are derived from the proxies: every proxy as the proxy artifact, and every
implementation that was found as the artifact of its proxy. -/
def derived : List Record :=
  t.proxies.map (fun p => ⟨c.proxyArtifact, p.address, c.proxyRuns, false⟩) ++
    t.proxies.filterMap (fun p =>
      (look p).address?.map fun a => ⟨p.sourcePath, a, p.optimizerRuns, false⟩)

/-- The derived record that comes first among those with a key. -/
def firstDerived (k : Key) : Option Record := (derived c t look).find? fun q => q.key = k

variable {c t look} {r : Record}

theorem groups_eq : groups c t look = derived c t look ++ t.contracts := rfl

theorem isProxy_of_mem_derived {q : Record} (h : q ∈ derived c t look) : q.isProxy = false := by
  apply isProxy_of_mem_groups c t look
  rw [groups_eq]
  exact List.mem_append_left _ h

/-- There is no derived record with the key of a contract unless the contract is declared as the
proxy artifact at the address of a proxy, or as the artifact of a proxy that leads to it. -/
theorem firstDerived_eq_none_iff :
    firstDerived c t look r.key = none ↔ ∀ p ∈ t.proxies,
      (p.address = r.address → r.sourcePath ≠ c.proxyArtifact) ∧
      ((look p).Finds r.address → p.sourcePath ≠ r.sourcePath) := by
  unfold firstDerived derived
  rw [List.find?_eq_none]
  simp only [decide_eq_true_eq, List.mem_append, List.mem_map, List.mem_filterMap,
    Option.map_eq_some_iff, Lookup.address?_eq_some_iff]
  constructor
  · intro hnone p hp
    constructor
    · -- A record of the proxy itself would have this key.
      intro haddress hsource
      refine hnone _ (.inl ⟨p, hp, rfl⟩) ?_
      rw [Record.key, Record.key, haddress, hsource]
    · -- So would a record of what is behind the proxy.
      intro hfinds hsource
      refine hnone _ (.inr ⟨p, hp, r.address, hfinds, rfl⟩) ?_
      rw [Record.key, Record.key, hsource]
  · intro hall q hq hkey
    rcases hq with ⟨p, hp, rfl⟩ | ⟨p, hp, a, hfinds, rfl⟩
    · obtain ⟨haddress, hsource⟩ := Key.mk.inj hkey
      exact (hall p hp).1 haddress hsource.symm
    · obtain ⟨haddress, hsource⟩ := Key.mk.inj hkey
      obtain rfl : a = r.address := haddress
      exact (hall p hp).2 hfinds hsource

/-- A derived record with the key of a contract is the contract exactly if it was compiled with the
same optimizer runs. -/
theorem eq_contract_iff (hr : r ∈ t.contracts) {q : Record}
    (hq : firstDerived c t look r.key = some q) : r = q ↔ q.optimizerRuns = r.optimizerRuns := by
  have hplain : r.isProxy = false := by simpa using (List.mem_filter.mp hr).2
  have hderived : q.isProxy = false :=
    isProxy_of_mem_derived (List.mem_of_find?_eq_some hq)
  have hfound := List.find?_some hq
  obtain ⟨haddress, hsource⟩ := Key.mk.inj (of_decide_eq_true hfound)
  constructor
  · intro heq
    rw [heq]
  · intro hruns
    cases r
    cases q
    simp_all

/-! ## Which record has the key of a contract -/

/-- Where no key comes twice, the first record with a key is the one that has it. -/
theorem find?_key_iff {records : List Record} (hn : (records.map Record.key).Nodup) {k : Key}
    {q : Record} : records.find? (fun x => x.key = k) = some q ↔ q ∈ records ∧ q.key = k := by
  constructor
  · intro hfind
    have hkey := List.find?_some hfind
    exact ⟨List.mem_of_find?_eq_some hfind, of_decide_eq_true hkey⟩
  · rintro ⟨hq, rfl⟩
    cases hfind : records.find? (fun x => x.key = q.key) with
    | none =>
      rw [List.find?_eq_none] at hfind
      exact absurd (decide_eq_true rfl) (hfind q hq)
    | some x =>
      have hkey := List.find?_some hfind
      have hx := List.mem_of_find?_eq_some hfind
      -- What is found has the key as well, and no two records share it.
      rw [List.inj_on_of_nodup_map hn hx hq (of_decide_eq_true hkey)]

/-- Of all candidates with the key of a contract the first one is the first derived record, or else
the contract. -/
theorem find?_groups (hr : r ∈ t.contracts) :
    (groups c t look).find? (fun q => q.key = r.key) =
      some ((firstDerived c t look r.key).getD r) := by
  have hcontract : t.contracts.find? (fun q => q.key = r.key) = some r :=
    (find?_key_iff t.nodup_keys_contracts).mpr ⟨hr, rfl⟩
  rw [groups_eq, List.find?_append, hcontract, ← firstDerived]
  cases firstDerived c t look r.key with
  | none => rfl
  | some q => rfl

theorem mem_dispatch_and_key_iff (hr : r ∈ t.contracts) {q : Record} :
    (q ∈ (ofLookups c t look).dispatch ∧ q.key = r.key) ↔
      q = (firstDerived c t look r.key).getD r := by
  have horder : InOrder (groups c t look) (ofLookups c t look).dispatch := by
    rw [← candidates_eq_groups]
    exact firstOfKey_inOrder _
  have hfirst : ∀ x ∈ (ofLookups c t look).dispatch, x.key = r.key →
      x = (firstDerived c t look r.key).getD r := by
    intro x hx hkey
    have hfind := horder.first x hx
    rw [hkey, find?_groups hr] at hfind
    exact (Option.some.inj hfind).symm
  constructor
  · rintro ⟨hq, hkey⟩
    exact hfirst q hq hkey
  · rintro rfl
    -- Some record has the key, and it is the one that comes first.
    have hkey : r.key ∈ (ofLookups c t look).dispatch.map Record.key :=
      (mem_keys_dispatch_iff c t look).mpr (.inr (.inr ⟨r, hr, rfl⟩))
    obtain ⟨x, hx, hxr⟩ := List.mem_map.mp hkey
    rw [← hfirst x hx hxr]
    exact ⟨hx, hxr⟩

/-- **Which contracts are submitted as they are declared**, whatever the order in which the lookups
end. One record with the key of a contract is submitted: the first one that is derived from a proxy,
if there is any, and the contract itself otherwise. So the contract is submitted unchanged exactly
if that derived record was compiled with the same optimizer runs, and in particular if it is neither
declared as the proxy artifact at the address of a proxy nor as the artifact of a proxy that leads
to it. -/
theorem contracts_kept_iff {rs : List Resolution} (h : Resolves t.proxies look rs)
    (hr : r ∈ t.contracts) :
    (∀ q, q ∈ (ofResolutions c rs t.contracts).dispatch ∧ q.key = r.key ↔
      q = (firstDerived c t look r.key).getD r) ∧
    (r ∈ (ofResolutions c rs t.contracts).dispatch ↔
      ∀ q, firstDerived c t look r.key = some q → q.optimizerRuns = r.optimizerRuns) ∧
    ((∀ p ∈ t.proxies, (p.address = r.address → r.sourcePath ≠ c.proxyArtifact) ∧
        ((look p).Finds r.address → p.sourcePath ≠ r.sourcePath)) →
      r ∈ (ofResolutions c rs t.contracts).dispatch) := by
  obtain rfl := h.eq_map
  have hkept : r ∈ (ofLookups c t look).dispatch ↔
      ∀ q, firstDerived c t look r.key = some q → q.optimizerRuns = r.optimizerRuns := by
    have hself : r ∈ (ofLookups c t look).dispatch ∧ r.key = r.key ↔
        r = (firstDerived c t look r.key).getD r := mem_dispatch_and_key_iff hr
    rw [and_iff_left rfl] at hself
    rw [hself]
    -- A derived record with this key takes the place of the contract, unless it is the same one.
    cases hderived : firstDerived c t look r.key with
    | none =>
      exact iff_of_true rfl nofun
    | some q =>
      rw [Option.getD_some, eq_contract_iff hr hderived]
      constructor
      · rintro hruns _ ⟨⟩
        exact hruns
      · intro hall
        exact hall q rfl
  refine ⟨fun q => mem_dispatch_and_key_iff hr, hkept, ?_⟩
  intro hapart
  apply hkept.mpr
  intro q hq
  rw [firstDerived_eq_none_iff.mpr hapart] at hq
  cases hq

end WorkList

/-- A proxy whose implementation is declared once more, with other optimizer runs. -/
def redeclaredTopology : Topology :=
  ⟨[⟨"A", .ofNat 1, 200, true⟩, ⟨"A", .ofNat 3, 100, false⟩, ⟨"B", .ofNat 3, 100, false⟩], rfl⟩

/-- The proxy leads to the third address. -/
def redeclaredLookups : Record → TimedLookup := fun _ => ⟨0, .answered (.ok 3)⟩

/-- The contract of another artifact at the address of the implementation is kept. -/
theorem contracts_kept_otherArtifact :
    ∃ rs, Resolves redeclaredTopology.proxies (fun p => (redeclaredLookups p).lookup) rs ∧
      ⟨"B", .ofNat 3, 100, false⟩ ∈ redeclaredTopology.contracts ∧
      ⟨"B", .ofNat 3, 100, false⟩ ∈
        (WorkList.ofResolutions .standard rs redeclaredTopology.contracts).dispatch := by
  have hrs := resolve_resolves redeclaredTopology.proxies redeclaredLookups
  have hr : ⟨"B", .ofNat 3, 100, false⟩ ∈ redeclaredTopology.contracts := by decide
  refine ⟨_, hrs, hr, (WorkList.contracts_kept_iff (c := .standard) hrs hr).2.2 ?_⟩
  intro p hp
  obtain rfl : p = ⟨"A", .ofNat 1, 200, true⟩ := List.mem_singleton.mp hp
  exact ⟨by decide, fun _ => by decide⟩

/-- The contract with the key of the implementation is not submitted with its own optimizer runs,
but with those of the proxy. -/
theorem not_mem_dispatch_redeclared :
    ⟨"A", .ofNat 3, 100, false⟩ ∈ redeclaredTopology.contracts ∧
    ⟨"A", .ofNat 3, 200, false⟩ ∈
      (plan .standard redeclaredTopology redeclaredLookups).dispatch ∧
    ¬ ∀ r ∈ redeclaredTopology.contracts,
      r ∈ (plan .standard redeclaredTopology redeclaredLookups).dispatch := by
  rw [plan_eq_ofLookups]
  decide

end Rollup.Verify
