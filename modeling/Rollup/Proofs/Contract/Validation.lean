/-
What the check of a topology guarantees.

The check goes through the records once and carries the keys that it has seen. What
it accepts is a property of the list as a whole: every record is sound on its own,
and no two of them have the same key.
-/
import Mathlib.Data.List.Nodup
import Rollup.Contract.Topology

set_option autoImplicit false

namespace Rollup.Contract

/-- A record that is in order by itself: it names an artifact and was compiled with some optimizer
runs. -/
def Record.Sound (r : Record) : Prop :=
  Text.isAllBlank r.sourcePath.toList = false ∧ r.optimizerRuns ≠ 0

theorem Record.check_eq_ok_iff {seen : List Key} {r : Record} :
    r.check seen = .ok () ↔ r.Sound ∧ r.key ∉ seen := by
  unfold Record.check Record.Sound
  by_cases hb : Text.isAllBlank r.sourcePath.toList = true
  · rw [if_pos hb]
    simp [hb]
  · rw [if_neg hb]
    by_cases hz : r.optimizerRuns = 0
    · rw [if_pos hz]
      simp [hz]
    · rw [if_neg hz]
      by_cases hs : r.key ∈ seen
      · rw [if_pos hs]
        simp [hs]
      · rw [if_neg hs]
        simp [hb, hz, hs]

/-- The records that pass are those that are sound and whose keys are new and different. The
induction is on the records; the keys seen so far grow by the key of each. -/
theorem checkAll_eq_ok_iff {seen : List Key} {records : List Record} :
    checkAll seen records = .ok () ↔
      (∀ r ∈ records, r.Sound ∧ r.key ∉ seen) ∧ (records.map Record.key).Nodup := by
  induction records generalizing seen with
  | nil => simp [checkAll]
  | cons r rest ih =>
    rw [checkAll, List.map_cons, List.nodup_cons]
    cases hc : r.check seen with
    | error e =>
      have hr : ¬(r.Sound ∧ r.key ∉ seen) := by
        rw [← Record.check_eq_ok_iff, hc]
        exact nofun
      simp only [reduceCtorEq, false_iff, not_and]
      intro h
      exact absurd (h r List.mem_cons_self) hr
    | ok u =>
      have hr : r.Sound ∧ r.key ∉ seen := Record.check_eq_ok_iff.mp hc
      dsimp only
      rw [ih]
      constructor
      · -- That later keys are new to what is seen now also says that they are not the one of this
        -- record.
        rintro ⟨hall, hn⟩
        refine ⟨fun q hq => ?_, fun hk => ?_, hn⟩
        · rcases List.mem_cons.mp hq with rfl | hq
          · exact hr
          · exact ⟨(hall q hq).1, fun h => (hall q hq).2 (List.mem_cons_of_mem _ h)⟩
        · obtain ⟨q, hq, hqk⟩ := List.mem_map.mp hk
          exact (hall q hq).2 (hqk ▸ List.mem_cons_self)
      · rintro ⟨hall, hk, hn⟩
        refine ⟨fun q hq => ⟨(hall q (List.mem_cons_of_mem _ hq)).1, fun h => ?_⟩, hn⟩
        rcases List.mem_cons.mp h with h | h
        · exact hk (h ▸ List.mem_map_of_mem hq)
        · exact (hall q (List.mem_cons_of_mem _ hq)).2 h

namespace Topology

variable (t : Topology)

theorem nodup_keys : (t.records.map Record.key).Nodup := (checkAll_eq_ok_iff.mp t.valid).2

/-- No two proxies have the same key. -/
theorem nodup_keys_proxies : (t.proxies.map Record.key).Nodup :=
  t.nodup_keys.sublist (List.filter_sublist.map _)

/-- No two contracts have the same key. -/
theorem nodup_keys_contracts : (t.contracts.map Record.key).Nodup :=
  t.nodup_keys.sublist (List.filter_sublist.map _)

/-- A contract has not the key of any proxy. -/
theorem key_ne_of_proxy_of_contract {p r : Record} (hp : p ∈ t.proxies) (hr : r ∈ t.contracts) :
    p.key ≠ r.key := by
  obtain ⟨hp, hpp⟩ := List.mem_filter.mp hp
  obtain ⟨hr, hrp⟩ := List.mem_filter.mp hr
  intro h
  rw [List.inj_on_of_nodup_map t.nodup_keys hp hr h] at hpp
  simp [hpp] at hrp

end Topology

end Rollup.Contract
