/-
Which lists of records are topologies, and which record is reported of all others.

Whether records can stand together is a property of the whole list (`Valid`), while the check is a
single pass that carries the keys it has seen. A pass over two lists one after the other is a pass
over the first and then one over the second with more keys seen (`checkAll_append`), so that the
pass fails exactly at the first record that breaks a rule behind valid ones.

A topology comes from records, from a text, from a file, or is empty. In each case it is one that
the check has passed, and its proxies and contracts are all of its records (`ofRecords_exact`).
-/
import Mathlib.Data.List.Count
import Rollup.Proofs.Contract.Validation

set_option autoImplicit false

namespace Rollup.Contract

/-- Records that can stand together. -/
structure Valid (records : List Record) : Prop where
  named : ∀ r ∈ records, ∃ c ∈ r.sourcePath.toList, Text.isBlank c = false
  optimized : ∀ r ∈ records, 0 < r.optimizerRuns
  distinct : records.Pairwise fun a b => ¬ (a.address = b.address ∧ a.sourcePath = b.sourcePath)

/-- What is reported of a record that stands behind others. -/
inductive Violates (before : List Record) (r : Record) : TopologyError → Prop where
  | blankSource : (∀ c ∈ r.sourcePath.toList, Text.isBlank c = true) →
    Violates before r (.blankSource r.address)
  | zeroRuns : (∃ c ∈ r.sourcePath.toList, Text.isBlank c = false) → r.optimizerRuns = 0 →
    Violates before r (.zeroRuns ⟨r.address, r.sourcePath⟩)
  | duplicate : (∃ c ∈ r.sourcePath.toList, Text.isBlank c = false) → 0 < r.optimizerRuns →
    (∃ q ∈ before, q.address = r.address ∧ q.sourcePath = r.sourcePath) →
    Violates before r (.duplicate ⟨r.address, r.sourcePath⟩)

/-! ## One record -/

theorem isAllBlank_eq_false_iff {text : List Char} :
    Text.isAllBlank text = false ↔ ∃ c ∈ text, Text.isBlank c = false := by
  simp [Text.isAllBlank]

theorem Record.key_eq_iff {a b : Record} :
    a.key = b.key ↔ a.address = b.address ∧ a.sourcePath = b.sourcePath := by
  simp [Record.key]

/-- A record is sound if it has a source path and runs. -/
theorem Record.sound_iff {r : Record} :
    r.Sound ↔ (∃ c ∈ r.sourcePath.toList, Text.isBlank c = false) ∧ 0 < r.optimizerRuns := by
  rw [Record.Sound, isAllBlank_eq_false_iff, UInt32.pos_iff_ne_zero]

/-- The check reports what the record breaks. It needs only the keys of the records before. -/
theorem Record.check_eq_error_iff {seen : List Key} {before : List Record} {r : Record}
    {e : TopologyError} (hseen : ∀ k, k ∈ seen ↔ k ∈ before.map Record.key) :
    r.check seen = .error e ↔ Violates before r e := by
  have hkey : r.key ∈ seen ↔
      ∃ q ∈ before, q.address = r.address ∧ q.sourcePath = r.sourcePath := by
    rw [hseen, List.mem_map]
    simp only [Record.key_eq_iff]
  -- The three conditions are checked one after the other, and the first one that fails is reported.
  unfold Record.check
  by_cases hblank : Text.isAllBlank r.sourcePath.toList = true
  · have hall : ∀ c ∈ r.sourcePath.toList, Text.isBlank c = true := List.all_eq_true.mp hblank
    have hnone : ¬ ∃ c ∈ r.sourcePath.toList, Text.isBlank c = false := by
      rintro ⟨c, hc, hblank⟩
      simp [hall c hc] at hblank
    rw [if_pos hblank, Except.error.injEq]
    constructor
    · rintro rfl
      exact .blankSource hall
    · intro h
      cases h with
      | blankSource => rfl
      | zeroRuns hname => exact absurd hname hnone
      | duplicate hname => exact absurd hname hnone
  · have hname := isAllBlank_eq_false_iff.mp ((Bool.not_eq_true _).mp hblank)
    rw [if_neg hblank]
    by_cases hzero : r.optimizerRuns = 0
    · rw [if_pos hzero, Except.error.injEq]
      constructor
      · rintro rfl
        exact .zeroRuns hname hzero
      · intro h
        cases h with
        | blankSource hall => exact absurd (List.all_eq_true.mpr hall) hblank
        | zeroRuns => rfl
        | duplicate _ hpos => exact absurd hzero (UInt32.pos_iff_ne_zero.mp hpos)
    · rw [if_neg hzero]
      by_cases hmem : r.key ∈ seen
      · rw [if_pos hmem, Except.error.injEq]
        constructor
        · rintro rfl
          exact .duplicate hname (UInt32.pos_iff_ne_zero.mpr hzero) (hkey.mp hmem)
        · intro h
          cases h with
          | blankSource hall => exact absurd (List.all_eq_true.mpr hall) hblank
          | zeroRuns _ h => exact absurd h hzero
          | duplicate => rfl
      · rw [if_neg hmem]
        refine iff_of_false nofun ?_
        intro h
        cases h with
        | blankSource hall => exact hblank (List.all_eq_true.mpr hall)
        | zeroRuns _ h => exact hzero h
        | duplicate _ _ h => exact hmem (hkey.mpr h)

/-! ## A pass over records -/

/-- Behind records that are accepted their keys count as seen. -/
theorem checkAll_append {seen : List Key} {front rest : List Record}
    (h : checkAll seen front = .ok ()) :
    checkAll seen (front ++ rest) = checkAll ((front.map Record.key).reverse ++ seen) rest := by
  -- Every record of the front is accepted, and its key is seen from then on.
  induction front generalizing seen with
  | nil => rfl
  | cons r front ih =>
    rw [checkAll] at h
    rw [List.cons_append, checkAll]
    cases hcheck : r.check seen with
    | error e => simp [hcheck] at h
    | ok u =>
      simp only [hcheck] at h ⊢
      rw [ih h, List.map_cons, List.reverse_cons, List.append_assoc]
      rfl

/-- A pass that fails has accepted everything in front of the record at which it fails. -/
theorem exists_of_checkAll_eq_error {seen : List Key} {records : List Record} {e : TopologyError}
    (h : checkAll seen records = .error e) : ∃ before r behind,
      records = before ++ r :: behind ∧ checkAll seen before = .ok () ∧
      r.check ((before.map Record.key).reverse ++ seen) = .error e := by
  induction records generalizing seen with
  | nil => simp [checkAll] at h
  | cons r rest ih =>
    rw [checkAll] at h
    cases hcheck : r.check seen with
    | error e' =>
      simp only [hcheck] at h
      exact ⟨[], r, rest, rfl, rfl, hcheck.trans h⟩
    | ok u =>
      simp only [hcheck] at h
      -- The record is accepted, so it stands in front of the one at which the pass fails.
      obtain ⟨before, q, behind, rfl, haccepted, hq⟩ := ih h
      refine ⟨r :: before, q, behind, rfl, ?_, ?_⟩
      · rw [checkAll, hcheck]
        exact haccepted
      · rw [List.map_cons, List.reverse_cons, List.append_assoc]
        exact hq

/-- A pass accepts the valid records. -/
theorem checkAll_nil_eq_ok_iff {records : List Record} :
    checkAll [] records = .ok () ↔ Valid records := by
  rw [checkAll_eq_ok_iff, List.Nodup, List.pairwise_map]
  simp only [ne_eq, Record.key_eq_iff, Record.sound_iff, List.not_mem_nil, not_false_eq_true,
    and_true]
  constructor
  · intro ⟨hsound, hdistinct⟩
    exact ⟨fun r hr => (hsound r hr).1, fun r hr => (hsound r hr).2, hdistinct⟩
  · intro h
    exact ⟨fun r hr => ⟨h.named r hr, h.optimized r hr⟩, h.distinct⟩

/-- A pass fails at the first record that breaks something. -/
theorem checkAll_nil_eq_error_iff {records : List Record} {e : TopologyError} :
    checkAll [] records = .error e ↔ ∃ before r behind,
      records = before ++ r :: behind ∧ Valid before ∧ Violates before r e := by
  have hseen (before : List Record) (k : Key) :
      k ∈ (before.map Record.key).reverse ++ [] ↔ k ∈ before.map Record.key := by simp
  constructor
  · intro h
    obtain ⟨before, r, behind, hrecords, haccepted, hr⟩ := exists_of_checkAll_eq_error h
    exact ⟨before, r, behind, hrecords, checkAll_nil_eq_ok_iff.mp haccepted,
      (Record.check_eq_error_iff (hseen before)).mp hr⟩
  · rintro ⟨before, r, behind, rfl, hvalid, hr⟩
    rw [checkAll_append (checkAll_nil_eq_ok_iff.mpr hvalid), checkAll,
      (Record.check_eq_error_iff (hseen before)).mpr hr]

namespace Topology

/-! ## Topologies -/

/-- A topology is made of the valid records, and keeps them all. -/
theorem ofRecords_eq_ok_iff {records : List Record} {t : Topology} :
    ofRecords records = .ok t ↔ Valid records ∧ t.records = records := by
  unfold ofRecords
  split
  next h =>
    rw [Except.ok.injEq]
    constructor
    · rintro rfl
      exact ⟨checkAll_nil_eq_ok_iff.mp h, rfl⟩
    · rintro ⟨-, rfl⟩
      rfl
  next e h =>
    refine iff_of_false nofun ?_
    rintro ⟨hvalid, -⟩
    rw [checkAll_nil_eq_ok_iff.mpr hvalid] at h
    cases h

/-- No topology is made where the pass fails. -/
theorem ofRecords_eq_error_iff {records : List Record} {e : TopologyError} :
    ofRecords records = .error e ↔ checkAll [] records = .error e := by
  unfold ofRecords
  split
  next h => simp [h]
  next e' h => simp [h]

/-- The ways to a topology. -/
inductive Obtained : Topology → Prop where
  | ofRecords {records : List Record} {t : Topology} : ofRecords records = .ok t → Obtained t
  | parse {text : List Char} {t : Topology} : parse text = .ok t → Obtained t
  | load {files : Files} {path : String} {t : Topology} : load files path = .ok t → Obtained t
  | empty : Obtained empty

/-- A topology that was parsed was made of records. -/
theorem exists_ofRecords_of_parse {text : List Char} {t : Topology} (h : parse text = .ok t) :
    ∃ records, ofRecords records = .ok t := by
  unfold parse at h
  split at h
  next records _ => exact ⟨records, h⟩
  next => cases h

/-- A topology that was loaded was parsed. -/
theorem exists_parse_of_load {files : Files} {path : String} {t : Topology}
    (h : load files path = .ok t) : ∃ text, parse text = .ok t := by
  unfold load at h
  split at h
  next text _ => exact ⟨text.toList, h⟩
  next => cases h

/-- However a topology was obtained, its records are valid. -/
theorem Obtained.valid {t : Topology} (h : Obtained t) : Valid t.records := by
  have hofRecords {records : List Record} {t : Topology} (h : Topology.ofRecords records = .ok t) :
      Valid t.records := by
    obtain ⟨hvalid, hrecords⟩ := ofRecords_eq_ok_iff.mp h
    rwa [hrecords]
  -- Every other way goes through the same check, but for the topology without records.
  cases h with
  | ofRecords h => exact hofRecords h
  | parse h =>
    obtain ⟨records, h⟩ := exists_ofRecords_of_parse h
    exact hofRecords h
  | load h =>
    obtain ⟨text, h⟩ := exists_parse_of_load h
    obtain ⟨records, h⟩ := exists_ofRecords_of_parse h
    exact hofRecords h
  | empty => exact checkAll_nil_eq_ok_iff.mp rfl

/-! ## Proxies and contracts -/

theorem proxies_append_contracts_perm (t : Topology) : (t.proxies ++ t.contracts).Perm t.records :=
  List.filter_append_perm _ _

theorem mem_proxies_iff {t : Topology} {r : Record} (hr : r ∈ t.records) :
    r ∈ t.proxies ↔ r.isProxy = true := by
  simp [proxies, hr]

theorem mem_contracts_iff {t : Topology} {r : Record} (hr : r ∈ t.records) :
    r ∈ t.contracts ↔ r.isProxy = false := by
  simp [contracts, hr]

/-- Each record is a proxy or a contract, and not both. -/
theorem count_proxies_append_contracts {t : Topology} {r : Record} (hr : r ∈ t.records) :
    (t.proxies ++ t.contracts).count r = 1 := by
  rw [t.proxies_append_contracts_perm.count_eq]
  -- A record that stands in a topology twice would have one key in both places.
  exact List.count_eq_one_of_mem (List.Nodup.of_map _ t.nodup_keys) hr

/-- **Which records are a topology.** They are one exactly if each names an artifact, has some
optimizer runs and has a key of its own, and the topology holds them as they are. Otherwise the
first record is reported that breaks a rule behind valid ones, with the first rule that it breaks.
However a topology comes about, its records are valid, and its proxies and its contracts are all of
them, each once and in the order of their declaration. -/
theorem ofRecords_exact :
    (∀ records : List Record,
      ((∃ t, ofRecords records = .ok t) ↔ Valid records) ∧
      (∀ t, ofRecords records = .ok t → t.records = records) ∧
      ∀ e, ofRecords records = .error e ↔ ∃ before r behind,
        records = before ++ r :: behind ∧ Valid before ∧ Violates before r e) ∧
    ∀ t : Topology, Obtained t → Valid t.records ∧
      t.proxies.Sublist t.records ∧ t.contracts.Sublist t.records ∧
      (t.proxies ++ t.contracts).Perm t.records ∧
      ∀ r ∈ t.records, (t.proxies ++ t.contracts).count r = 1 ∧
        (r ∈ t.proxies ↔ r.isProxy = true) ∧ (r ∈ t.contracts ↔ r.isProxy = false) := by
  constructor
  · intro records
    refine ⟨⟨?_, ?_⟩, ?_, ?_⟩
    · rintro ⟨t, ht⟩
      exact (ofRecords_eq_ok_iff.mp ht).1
    · intro hvalid
      have haccepted := checkAll_nil_eq_ok_iff.mpr hvalid
      exact ⟨⟨records, haccepted⟩, ofRecords_eq_ok_iff.mpr ⟨hvalid, rfl⟩⟩
    · intro t ht
      exact (ofRecords_eq_ok_iff.mp ht).2
    · intro e
      rw [ofRecords_eq_error_iff, checkAll_nil_eq_error_iff]
  · intro t ht
    refine ⟨ht.valid, List.filter_sublist, List.filter_sublist, t.proxies_append_contracts_perm, ?_⟩
    intro r hr
    exact ⟨count_proxies_append_contracts hr, mem_proxies_iff hr, mem_contracts_iff hr⟩

end Topology

end Rollup.Contract
