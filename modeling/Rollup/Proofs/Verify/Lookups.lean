/-
The lookups of the proxies, in every order in which they can end.

The answers arrive in the order in which the tasks end, and the proxies whose tasks
were lost are taken from a table that has no order at all. `Resolves` has both
orders free. Each answer and each proxy without one carries the number of the
proxy, and the numbers are all different, so that sorting by them leaves one
possibility: `Resolves.eq_map`.
-/
import Mathlib.Data.List.Sort
import Rollup.Verify.Resolution

set_option autoImplicit false

namespace Rollup.Verify

open Contract (Record)

/-- What the lookups of proxies can come to: they end in some order, and those that were lost are
taken in some order. -/
inductive Resolves (proxies : List Record) (look : Record → Lookup) : List Resolution → Prop where
  | intro {ended : List (Nat × Lookup)} {lost : List (Record × Nat)} :
    ended.Perm (proxies.zipIdx.map fun (p, i) => (i, look p)) →
    lost.Perm (missing proxies ended) →
    Resolves proxies look (arrange (answered proxies ended) lost)

/-- Whether the task of a lookup ended with an answer. -/
def Lookup.isAnswered : Lookup → Bool
  | .answered _ => true
  | .lost => false

theorem Lookup.eq_lost {l : Lookup} (h : l.isAnswered = false) : l = .lost := by
  cases l with
  | answered a => cases h
  | lost => rfl

/-- The resolution of a proxy with its number. -/
def numbered (look : Record → Lookup) (p : Record × Nat) : Nat × Resolution :=
  (p.2, .ofLookup p.1 (look p.1))

/-! ## What is known and what is missing -/

section

variable {proxies : List Record} {look : Record → Lookup} {ended : List (Nat × Lookup)}

/-- The number of a proxy says which proxy it is. -/
theorem eq_of_mem_zipIdx {p q : Record} {i : Nat} (hp : (p, i) ∈ proxies.zipIdx)
    (hq : (q, i) ∈ proxies.zipIdx) : p = q := by
  rw [List.mk_mem_zipIdx_iff_getElem?] at hp hq
  exact Option.some.inj (hp.symm.trans hq)

theorem answered_perm (h : ended.Perm (proxies.zipIdx.map fun (p, i) => (i, look p))) :
    (answered proxies ended).Perm
      ((proxies.zipIdx.filter fun p => (look p.1).isAnswered).map (numbered look)) := by
  refine (h.filterMap _).trans (.of_eq ?_)
  rw [List.filterMap_map, ← List.filterMap_eq_map, List.filterMap_filter]
  refine List.filterMap_congr fun p hp => ?_
  obtain ⟨p, i⟩ := p
  have hi : proxies[i]? = some p := List.mk_mem_zipIdx_iff_getElem?.mp hp
  simp only [Function.comp_apply, numbered]
  cases look p with
  | answered a => simp only [hi, Option.map_some, Lookup.isAnswered, if_true]
  | lost => simp only [Lookup.isAnswered, Bool.false_eq_true, if_false]

theorem missing_eq (h : ended.Perm (proxies.zipIdx.map fun (p, i) => (i, look p))) :
    missing proxies ended = proxies.zipIdx.filter fun p => !(look p.1).isAnswered := by
  refine List.filter_congr fun p hp => ?_
  obtain ⟨p, i⟩ := p
  have hmem : i ∈ (answered proxies ended).map (·.1) ↔ (look p).isAnswered = true := by
    rw [((answered_perm h).map _).mem_iff, List.map_map, List.mem_map]
    -- A number among the answered ones is the number of this proxy and of no other.
    constructor
    · rintro ⟨⟨q, j⟩, hq, rfl⟩
      rw [List.mem_filter] at hq
      rw [eq_of_mem_zipIdx hp hq.1]
      exact hq.2
    · intro ha
      exact ⟨(p, i), List.mem_filter.mpr ⟨hp, ha⟩, rfl⟩
  rw [Bool.eq_iff_iff, decide_eq_true_iff, hmem]
  simp

/-- Known and missing together are all proxies, each once. -/
theorem known_append_lost_perm {lost : List (Record × Nat)}
    (h : ended.Perm (proxies.zipIdx.map fun (p, i) => (i, look p)))
    (hlost : lost.Perm (missing proxies ended)) :
    List.Perm (answered proxies ended ++ lost.map fun p => (p.2, .ofLookup p.1 .lost))
      (proxies.zipIdx.map (numbered look)) := by
  have hl : (lost.map fun p => (p.2, Resolution.ofLookup p.1 .lost)).Perm
      ((proxies.zipIdx.filter fun p => !(look p.1).isAnswered).map (numbered look)) := by
    refine ((missing_eq h ▸ hlost).map _).trans (.of_eq (List.map_congr_left fun p hp => ?_))
    have hp' : (look p.1).isAnswered = false := by simpa using (List.mem_filter.mp hp).2
    rw [numbered, Lookup.eq_lost hp']
  refine ((answered_perm h).append hl).trans ?_
  rw [← List.map_append]
  exact (List.filter_append_perm _ _).map _

end

/-! ## One possibility -/

/-- Sorting by number undoes any rearrangement of the numbered resolutions. -/
theorem mergeSort_numbered {proxies : List Record} {look : Record → Lookup}
    {l : List (Nat × Resolution)} (h : l.Perm (proxies.zipIdx.map (numbered look))) :
    l.mergeSort (fun a b => a.1 ≤ b.1) = proxies.zipIdx.map (numbered look) := by
  have hnum : (proxies.zipIdx.map (numbered look)).Pairwise fun a b => a.1 < b.1 := by
    rw [List.pairwise_map]
    have hr : (proxies.zipIdx.map Prod.snd).Pairwise (· < ·) := by
      rw [List.zipIdx_map_snd]
      exact List.pairwise_lt_range'
    exact List.pairwise_map.mp hr
  have hsorted : (l.mergeSort fun a b => a.1 ≤ b.1).Pairwise fun a b => a.1 ≤ b.1 := by
    refine (List.pairwise_mergeSort (fun a b c hab hbc => ?_) (fun a b => ?_) l).imp fun hab => ?_
    · exact decide_eq_true (Nat.le_trans (of_decide_eq_true hab) (of_decide_eq_true hbc))
    · rw [Bool.or_eq_true, decide_eq_true_iff, decide_eq_true_iff]
      exact Nat.le_total _ _
    · exact of_decide_eq_true hab
  have hperm := (List.mergeSort_perm l fun a b => decide (a.1 ≤ b.1)).trans h
  refine hperm.eq_of_pairwise (fun a b ha hb hab hba => ?_) hsorted (hnum.imp Nat.le_of_lt)
  -- Two entries of one number are one entry, because the numbers increase strictly.
  have hnodup : ((proxies.zipIdx.map (numbered look)).map Prod.fst).Nodup :=
    List.pairwise_map.mpr (hnum.imp Nat.ne_of_lt)
  exact List.inj_on_of_nodup_map hnodup (hperm.mem_iff.mp ha) hb (Nat.le_antisymm hab hba)

/-- **The lookups have one result**: the resolutions stand in the order of the proxies, each by the
lookup of its proxy, whatever the order in which the lookups ended. -/
theorem Resolves.eq_map {proxies : List Record} {look : Record → Lookup} {rs : List Resolution}
    (h : Resolves proxies look rs) : rs = proxies.map fun p => .ofLookup p (look p) := by
  obtain ⟨hended, hlost⟩ := h
  rw [arrange, mergeSort_numbered (known_append_lost_perm hended hlost), List.map_map]
  conv_rhs => rw [← List.zipIdx_map_fst 0 proxies, List.map_map]
  rfl

/-- The lookups that take as long as they take are one way in which they can end. -/
theorem resolve_resolves (proxies : List Record) (look : Record → TimedLookup) :
    Resolves proxies (fun p => (look p).lookup) (resolve proxies look) :=
  .intro ((List.mergeSort_perm _ _).map _) (.refl _)

theorem resolve_eq_map (proxies : List Record) (look : Record → TimedLookup) :
    resolve proxies look = proxies.map fun p => .ofLookup p (look p).lookup :=
  (resolve_resolves proxies look).eq_map

end Rollup.Verify
