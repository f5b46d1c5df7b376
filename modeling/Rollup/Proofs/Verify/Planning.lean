/-
What planning comes to, for every way in which the lookups can end.

A work list is known from the topology and the answers of the node alone. Its keys are those
of the proxies as the proxy artifact, of the implementations that were found, and of the
contracts, each once. A key stands where the first candidate with that key stands
(`firstOfKey_inOrder`), so that the groups follow each other and each group keeps the order
of the declarations. The proxies without an implementation are left over, one failed
outcome for each (`forall₂_unresolved`).

What it means that an implementation was found is said in bytes (`Lookup.Finds`), as the
contract that keeps the slot would say it, and not by the number that `implementation?`
compares.
-/
import Rollup.Proofs.Verify.Candidates
import Rollup.Proofs.Word

set_option autoImplicit false

namespace Rollup.Verify

open Contract (Key Record Outcome Topology)

/-! ## What a lookup finds -/

/-- The slot has twelve zero bytes and behind them an address other than zero. -/
def Lookup.Finds (l : Lookup) (a : Address) : Prop :=
  ∃ slot : Word, l = .answered (.ok slot) ∧ slot.bytes = List.replicate 12 0 ++ a.bytes ∧
    a ≠ .zero

/-- A slot holds an address if this stands behind twelve zeros and is not zero itself. -/
theorem implementation?_eq_some_iff {slot : Word} {a : Address} :
    implementation? slot = some a ↔
      slot.bytes = List.replicate 12 0 ++ a.bytes ∧ a ≠ .zero := by
  have hlt : a.bits.toNat < 2 ^ 160 := a.bits.isLt
  have hzero : a ≠ .zero ↔ a.bits.toNat ≠ 0 := by
    refine not_congr ⟨?_, fun h => Address.ext_toNat h⟩
    rintro rfl
    rfl
  rw [Word.bytes_eq_iff, hzero, implementation?]
  -- In numbers: the slot is not zero and has no more than 160 bits.
  by_cases hslot : 0 < slot.toNat ∧ slot.toNat < 2 ^ 160
  · have hnat : (Address.ofNat slot.toNat).bits.toNat = slot.toNat := by
      rw [Address.ofNat, BitVec.toNat_ofNat]
      exact Nat.mod_eq_of_lt hslot.2
    rw [if_pos hslot, Option.some.injEq]
    constructor
    · rintro rfl
      omega
    · rintro ⟨hvalue, -⟩
      apply Address.ext_toNat
      rw [hnat, hvalue]
  · rw [if_neg hslot]
    refine iff_of_false nofun ?_
    rintro ⟨hvalue, hne⟩
    omega

/-- A lookup has an implementation if it finds one. -/
theorem Lookup.implementation_eq_ok_iff {l : Lookup} {a : Address} :
    l.implementation = .ok a ↔ l.Finds a := by
  unfold Finds
  -- The read may fail, be answered, or never end.
  rcases l with (e | slot) | _
  · simp [implementation]
  · rw [implementation]
    cases hfound : implementation? slot with
    | none =>
      refine iff_of_false nofun ?_
      rintro ⟨slot', hslot, hbytes⟩
      cases hslot
      rw [implementation?_eq_some_iff.mpr hbytes] at hfound
      cases hfound
    | some b =>
      constructor
      · intro hb
        cases hb
        exact ⟨slot, rfl, implementation?_eq_some_iff.mp hfound⟩
      · rintro ⟨slot', hslot, hbytes⟩
        cases hslot
        rw [implementation?_eq_some_iff.mpr hbytes] at hfound
        cases hfound
        rfl
  · simp [implementation]

/-- A proxy without an implementation is told so, with a cause or without. -/
theorem Lookup.implementation_error {l : Lookup} {reason : String}
    (h : l.implementation = .error reason) :
    reason = "unresolved implementation" ∨
      ∃ cause, reason = "unresolved implementation: " ++ cause := by
  have hcause : ∀ cause, unresolved ++ ": " ++ cause = "unresolved implementation: " ++ cause :=
    fun cause => rfl
  rcases l with (e | slot) | _
  · cases h
    exact .inr ⟨e.message, hcause _⟩
  · rw [implementation] at h
    split at h
    · cases h
    · cases h
      exact .inl rfl
  · cases h
    exact .inr ⟨"lookup task failed", rfl⟩

/-- The address that a lookup found. -/
def Lookup.address? (l : Lookup) : Option Address := l.implementation.toOption

/-- The address of a lookup is the one that it finds. -/
theorem Lookup.address?_eq_some_iff {l : Lookup} {a : Address} :
    l.address? = some a ↔ l.Finds a := by
  rw [← implementation_eq_ok_iff, address?]
  cases l.implementation with
  | ok b => simp [Except.toOption]
  | error reason => simp [Except.toOption]

instance (l : Lookup) : Decidable (∃ a, l.Finds a) :=
  decidable_of_iff (l.address?.isSome = true) <| by
    simp only [Option.isSome_iff_exists, Lookup.address?_eq_some_iff]

/-- The outcome of a proxy whose implementation was not found. -/
def LeftOver (p : Record) (o : Outcome) : Prop :=
  ∃ reason, o = .failed p.key reason ∧
    (reason = "unresolved implementation" ∨
      ∃ cause, reason = "unresolved implementation: " ++ cause)

/-! ## The first of each key, in order -/

/-- Where the first record with a key stands. -/
def placeOf (records : List Record) (k : Key) : Nat := records.findIdx fun r => r.key = k

/-- What is kept of some records: of each key the first record, in the order of these. -/
structure InOrder (records kept : List Record) : Prop where
  first : ∀ r ∈ kept, records.find? (fun q => q.key = r.key) = some r
  order : kept.Pairwise fun a b => placeOf records a.key < placeOf records b.key

/-- A record with a new key is the first one of this key. -/
theorem first_of_new {before : List Record} {r : Record} (rest : List Record)
    (h : ∀ q ∈ before, ¬ q.key = r.key) :
    placeOf (before ++ r :: rest) r.key = before.length ∧
      (before ++ r :: rest).find? (fun q => q.key = r.key) = some r := by
  have hhere : decide (r.key = r.key) = true := decide_eq_true rfl
  constructor
  · have hnone : ¬ before.findIdx (fun q => q.key = r.key) < before.length := by
      rw [List.findIdx_lt_length]
      rintro ⟨q, hq, hqr⟩
      exact h q hq (of_decide_eq_true hqr)
    -- None before it has the key, and it has it itself.
    have hzero : (r :: rest).findIdx (fun q => q.key = r.key) = 0 := by
      rw [List.findIdx_cons, hhere, cond_true]
    rw [placeOf, List.findIdx_append, if_neg hnone, hzero, Nat.zero_add]
  · have hnone : before.find? (fun q => q.key = r.key) = none := by
      rw [List.find?_eq_none]
      intro q hq hqr
      exact h q hq (of_decide_eq_true hqr)
    rw [List.find?_append, hnone, Option.none_or]
    exact List.find?_cons_of_pos hhere

/-- The induction is on the records that are still to come. Those that went before are `before`, and
the keys seen so far are theirs. -/
theorem firstOfKey_places {before : List Record} (records : List Record) {seen : List Key}
    (hseen : ∀ k, k ∈ seen ↔ k ∈ before.map Record.key) :
    InOrder (before ++ records) (firstOfKey seen records) ∧
      ∀ r ∈ firstOfKey seen records, before.length ≤ placeOf (before ++ records) r.key := by
  induction records generalizing before seen with
  | nil => exact ⟨⟨nofun, List.Pairwise.nil⟩, nofun⟩
  | cons r rest ih =>
    have hsplit : before ++ r :: rest = (before ++ [r]) ++ rest := by
      rw [List.append_assoc, List.singleton_append]
    have hkeys : (before ++ [r]).map Record.key = before.map Record.key ++ [r.key] := by
      rw [List.map_append, List.map_singleton]
    rw [firstOfKey]
    by_cases hr : r.key ∈ seen
    · -- The record is left out, and its key was seen before.
      have hseen' : ∀ k, k ∈ seen ↔ k ∈ (before ++ [r]).map Record.key := by
        intro k
        rw [hkeys, List.mem_append, List.mem_singleton, ← hseen]
        constructor
        · exact .inl
        · rintro (hk | rfl)
          · exact hk
          · exact hr
      obtain ⟨horder, hplaces⟩ := ih hseen'
      rw [if_pos hr, hsplit]
      refine ⟨horder, fun q hq => ?_⟩
      have hq' := hplaces q hq
      rw [List.length_append] at hq'
      omega
    · -- The record is the first one with its key, and all others that are kept stand behind it.
      have hseen' : ∀ k, k ∈ r.key :: seen ↔ k ∈ (before ++ [r]).map Record.key := by
        intro k
        rw [hkeys, List.mem_append, List.mem_singleton, ← hseen, List.mem_cons, or_comm]
      obtain ⟨⟨hfirst, horder⟩, hplaces⟩ := ih hseen'
      have hbefore : ∀ q ∈ before, ¬ q.key = r.key := by
        intro q hq hqr
        exact hr ((hseen _).mpr (hqr ▸ List.mem_map_of_mem hq))
      obtain ⟨hplace, hfind⟩ := first_of_new rest hbefore
      rw [if_neg hr]
      rw [← hsplit] at hfirst horder hplaces
      have hlater : ∀ q ∈ firstOfKey (r.key :: seen) rest,
          before.length < placeOf (before ++ r :: rest) q.key := by
        intro q hq
        have hq' := hplaces q hq
        rw [List.length_append, List.length_singleton] at hq'
        omega
      refine ⟨⟨?_, ?_⟩, ?_⟩
      · intro q hq
        rcases List.mem_cons.mp hq with rfl | hq
        · exact hfind
        · exact hfirst q hq
      · refine List.pairwise_cons.mpr ⟨fun q hq => ?_, horder⟩
        rw [hplace]
        exact hlater q hq
      · intro q hq
        rcases List.mem_cons.mp hq with rfl | hq
        · rw [hplace]
        · exact Nat.le_of_lt (hlater q hq)

/-- Keeping the first of each key keeps the order. -/
theorem firstOfKey_inOrder (records : List Record) : InOrder records (firstOfKey [] records) := by
  have hseen : ∀ k, k ∈ ([] : List Key) ↔ k ∈ ([] : List Record).map Record.key := fun _ => Iff.rfl
  exact (firstOfKey_places records hseen).1

/-! ## The work list -/

namespace WorkList

variable (c : Config) (t : Topology) (look : Record → Lookup)

/-- What there is to submit, group by group and with repetitions: every proxy as the proxy artifact,
every implementation that was found as the artifact of its proxy, and every contract. -/
def groups : List Record :=
  t.proxies.map (fun p => ⟨c.proxyArtifact, p.address, c.proxyRuns, false⟩) ++
    t.proxies.filterMap (fun p =>
      (look p).address?.map fun a => ⟨p.sourcePath, a, p.optimizerRuns, false⟩) ++
    t.contracts

/-- The candidates are the implementations by address, and then the contracts. -/
theorem candidates_eq_groups :
    candidates c (t.proxies.map fun p => .ofLookup p (look p)) t.contracts = groups c t look := by
  have himpl : (t.proxies.map fun p => Resolution.ofLookup p (look p)).filterMap
      (·.implementationRecord?) = t.proxies.filterMap fun p =>
        (look p).address?.map fun a => ⟨p.sourcePath, a, p.optimizerRuns, false⟩ := by
    rw [List.filterMap_map]
    refine List.filterMap_congr fun p _ => ?_
    unfold Lookup.address? Resolution.implementationRecord? Resolution.ofLookup
    simp only [Function.comp_apply]
    cases (look p).implementation with
    | ok a => rfl
    | error reason => rfl
  rw [candidates, groups, himpl, List.map_map]
  rfl

/-- No candidate is a proxy. -/
theorem isProxy_of_mem_groups {r : Record} (h : r ∈ groups c t look) : r.isProxy = false := by
  unfold groups at h
  rw [List.mem_append, List.mem_append] at h
  rcases h with (h | h) | h
  · obtain ⟨p, -, rfl⟩ := List.mem_map.mp h
    rfl
  · obtain ⟨p, -, hp⟩ := List.mem_filterMap.mp h
    obtain ⟨a, -, rfl⟩ := Option.map_eq_some_iff.mp hp
    rfl
  · have hr := (List.mem_filter.mp h).2
    simpa using hr

/-- The proxies without an implementation are left over, in their order. -/
theorem forall₂_unresolved (proxies : List Record) :
    List.Forall₂ LeftOver (proxies.filter fun p => ¬ ∃ a, (look p).Finds a)
      ((proxies.map fun p => Resolution.ofLookup p (look p)).filterMap (·.failure?)) := by
  induction proxies with
  | nil => exact .nil
  | cons p rest ih =>
    rw [List.map_cons, List.filterMap_cons, List.filter_cons]
    -- A proxy with an implementation is in neither list, and one without is in both.
    cases himpl : (look p).implementation with
    | ok a =>
      have hfound : ∃ a, (look p).Finds a := ⟨a, Lookup.implementation_eq_ok_iff.mp himpl⟩
      have hnone : (Resolution.ofLookup p (look p)).failure? = none :=
        Resolution.failure?_eq_none_iff.mpr ⟨a, himpl⟩
      rw [if_neg (by simpa using hfound), hnone]
      exact ih
    | error reason =>
      have hmissing : ¬ ∃ a, (look p).Finds a := by
        rintro ⟨a, ha⟩
        rw [Lookup.implementation_eq_ok_iff.mpr ha] at himpl
        cases himpl
      have hsome : (Resolution.ofLookup p (look p)).failure? = some (.failed p.key reason) := by
        rw [Resolution.failure?, Resolution.ofLookup, himpl]
      rw [if_pos (decide_eq_true hmissing), hsome]
      exact .cons ⟨reason, rfl, Lookup.implementation_error himpl⟩ ih

/-- **What planning comes to**, whatever the order in which the lookups end: the keys to submit are
those of the proxies as the proxy artifact, of the implementations that were found and of the
contracts, each once and in the order of these groups, and every proxy whose implementation was not
found is a failed outcome. -/
theorem ofResolutions_exact {rs : List Resolution} (h : Resolves t.proxies look rs) :
    ((ofResolutions c rs t.contracts).dispatch.map Record.key).Nodup ∧
    (∀ r ∈ (ofResolutions c rs t.contracts).dispatch, r.isProxy = false) ∧
    (∀ k, k ∈ (ofResolutions c rs t.contracts).dispatch.map Record.key ↔
      (∃ p ∈ t.proxies, k = ⟨p.address, c.proxyArtifact⟩) ∨
      (∃ p ∈ t.proxies, ∃ a, (look p).Finds a ∧ k = ⟨a, p.sourcePath⟩) ∨
      ∃ r ∈ t.contracts, k = ⟨r.address, r.sourcePath⟩) ∧
    InOrder (groups c t look) (ofResolutions c rs t.contracts).dispatch ∧
    List.Forall₂ LeftOver (t.proxies.filter fun p => ¬ ∃ a, (look p).Finds a)
      (ofResolutions c rs t.contracts).unresolved ∧
    ∀ delay : Record → Nat,
      plan c t (fun p => ⟨delay p, look p⟩) = ofResolutions c rs t.contracts := by
  -- Resolutions are what the lookups say, whatever the order in which they ended.
  obtain rfl := h.eq_map
  have horder : InOrder (groups c t look) (ofLookups c t look).dispatch := by
    rw [← candidates_eq_groups]
    exact firstOfKey_inOrder _
  refine ⟨nodup_keys_dispatch c t look, fun r hr => ?_, fun k => ?_, horder,
    forall₂_unresolved look t.proxies, fun delay => plan_eq_ofLookups c t _⟩
  · exact isProxy_of_mem_groups c t look (List.mem_of_find?_eq_some (horder.first r hr))
  · simp only [← Lookup.implementation_eq_ok_iff]
    exact mem_keys_dispatch_iff c t look

end WorkList

/-- Two proxies of one artifact, and a contract at the address of what is behind the first. -/
def sharedTopology : Topology :=
  ⟨[⟨"A", .ofNat 1, 200, true⟩, ⟨"A", .ofNat 2, 200, true⟩, ⟨"A", .ofNat 3, 100, false⟩], rfl⟩

/-- The lookup of the second proxy is lost, before the first one ends. -/
def sharedLookups : Record → TimedLookup := fun p =>
  if p.address = .ofNat 1 then ⟨5, .answered (.ok 3)⟩ else ⟨0, .lost⟩

/-- What is behind the first proxy is submitted once, and the second proxy is left over. -/
theorem ofResolutions_exact_sharedTopology :
    ∃ rs, Resolves sharedTopology.proxies (fun p => (sharedLookups p).lookup) rs ∧
      ((WorkList.ofResolutions .standard rs sharedTopology.contracts).dispatch.map
        Record.key).Nodup ∧
      ⟨.ofNat 3, "A"⟩ ∈ (WorkList.ofResolutions .standard rs sharedTopology.contracts).dispatch.map
        Record.key ∧
      (WorkList.ofResolutions .standard rs sharedTopology.contracts).unresolved.length = 1 := by
  have hrs := resolve_resolves sharedTopology.proxies sharedLookups
  obtain ⟨hnodup, -, hkeys, -, hleft, -⟩ := WorkList.ofResolutions_exact .standard _ _ hrs
  have hfinds : (sharedLookups ⟨"A", .ofNat 1, 200, true⟩).lookup.Finds (.ofNat 3) :=
    ⟨3, rfl, Word.bytes_eq_iff.mpr rfl, by decide⟩
  refine ⟨_, hrs, hnodup, (hkeys _).mpr (.inr (.inl ?_)), hleft.length_eq.symm.trans (by decide)⟩
  exact ⟨_, List.mem_cons_self, _, hfinds, rfl⟩

end Rollup.Verify
