/-
What the order of a report says about it.

Keys are linearly ordered, so a list of outcomes that is sorted by them is known
once it is known what it holds under each key, and in which order: `eq_of_sorted`.
Sorting is stable, which is the same thing from the other side: it moves nothing
within a key (`filter_sort`). Everything that two reports have in common is proved
through these two facts, and neither looks into the sorting itself.
-/
import Mathlib.Data.List.Sort
import Rollup.Contract.Report

set_option autoImplicit false

namespace Rollup.Contract

/-! ## Keys are linearly ordered -/

namespace Key

/-- Any two keys are in order. -/
theorem le_total (a b : Key) : (a.le b || b.le a) = true := by
  rw [Bool.or_eq_true]
  unfold le
  by_cases h : a.address = b.address
  · rw [if_pos h, if_pos h.symm, decide_eq_true_iff, decide_eq_true_iff]
    exact String.le_total _ _
  · rw [if_neg h, if_neg (Ne.symm h)]
    simp only [Address.le, decide_eq_true_iff]
    exact Nat.le_total _ _

/-- Equal numbers are equal addresses: the only way in which two addresses can each be at most the
other. -/
theorem address_antisymm {a b : Address} (hab : a.le b = true) (hba : b.le a = true) : a = b := by
  simp only [Address.le, decide_eq_true_iff] at hab hba
  have h : a.bits = b.bits := BitVec.eq_of_toNat_eq (Nat.le_antisymm hab hba)
  cases a
  cases b
  exact congrArg _ h

/-- Keys that are in order both ways are the same. -/
theorem le_antisymm {a b : Key} (hab : a.le b = true) (hba : b.le a = true) : a = b := by
  unfold le at hab hba
  by_cases h : a.address = b.address
  · rw [if_pos h, decide_eq_true_iff] at hab
    rw [if_pos h.symm, decide_eq_true_iff] at hba
    have hs : a.sourcePath = b.sourcePath := String.le_antisymm hab hba
    cases a
    cases b
    simp only [Key.mk.injEq]
    exact ⟨h, hs⟩
  · rw [if_neg h] at hab
    rw [if_neg (Ne.symm h)] at hba
    exact absurd (address_antisymm hab hba) h

/-- The order is one: addresses first, and then source paths. -/
theorem le_trans (a b c : Key) (hab : a.le b = true) (hbc : b.le c = true) : a.le c = true := by
  unfold le at hab hbc ⊢
  by_cases h₁ : a.address = b.address
  · by_cases h₂ : b.address = c.address
    · rw [if_pos h₁, decide_eq_true_iff] at hab
      rw [if_pos h₂, decide_eq_true_iff] at hbc
      rw [if_pos (h₁.trans h₂), decide_eq_true_iff]
      exact String.le_trans hab hbc
    · rw [if_neg h₂] at hbc
      rw [h₁, if_neg h₂]
      exact hbc
  · -- Once the addresses differ, the source paths count no more.
    rw [if_neg h₁] at hab
    by_cases h₂ : b.address = c.address
    · rw [← h₂, if_neg h₁]
      exact hab
    · rw [if_neg h₂] at hbc
      have h₃ : a.address ≠ c.address := by
        intro h
        rw [← h] at hbc
        exact h₁ (address_antisymm hab hbc)
      rw [if_neg h₃]
      simp only [Address.le, decide_eq_true_iff] at hab hbc ⊢
      exact Nat.le_trans hab hbc

end Key

/-! ## Sorted outcomes -/

namespace Report

/-- Outcomes stand in the order of their keys. -/
def Sorted (outcomes : List Outcome) : Prop := outcomes.Pairwise fun a b => a.key.le b.key = true

theorem sorted_sort (outcomes : List Outcome) : Sorted (sort outcomes) :=
  List.pairwise_mergeSort (fun a b c => Key.le_trans a.key b.key c.key)
    (fun a b => Key.le_total a.key b.key) outcomes

theorem sort_perm (outcomes : List Outcome) : (sort outcomes).Perm outcomes :=
  List.mergeSort_perm _ _

/-- The outcomes of one key, in order. -/
def ofKey (k : Key) (outcomes : List Outcome) : List Outcome :=
  outcomes.filter fun o => o.key = k

theorem mem_ofKey {k : Key} {o : Outcome} {outcomes : List Outcome} :
    o ∈ ofKey k outcomes ↔ o ∈ outcomes ∧ o.key = k := by
  rw [ofKey, List.mem_filter, decide_eq_true_iff]

@[simp] theorem ofKey_append (k : Key) (a b : List Outcome) :
    ofKey k (a ++ b) = ofKey k a ++ ofKey k b := List.filter_append a b

/-- Outcomes of one key are in the order of their keys, however they stand. -/
theorem sorted_ofKey (k : Key) (outcomes : List Outcome) : Sorted (ofKey k outcomes) := by
  refine List.pairwise_of_forall_mem_list fun a ha b hb => ?_
  rw [(mem_ofKey.mp ha).2, (mem_ofKey.mp hb).2]
  simpa using Key.le_total k k

/-- **Sorting is stable**: the outcomes of a key stay in order. -/
theorem filter_sort (k : Key) (outcomes : List Outcome) :
    ofKey k (sort outcomes) = ofKey k outcomes := by
  have hsub : (ofKey k outcomes).Sublist (sort outcomes) :=
    List.sublist_mergeSort (fun a b c => Key.le_trans a.key b.key c.key)
      (fun a b => Key.le_total a.key b.key) (sorted_ofKey k outcomes) List.filter_sublist
  have hfix : ofKey k (ofKey k outcomes) = ofKey k outcomes := by
    rw [ofKey, ofKey, List.filter_filter]
    simp only [Bool.and_self]
  have hsub' : (ofKey k outcomes).Sublist (ofKey k (sort outcomes)) :=
    hfix ▸ hsub.filter fun o : Outcome => o.key = k
  refine (hsub'.eq_of_length ?_).symm
  exact ((sort_perm outcomes).filter _).length_eq.symm

/-- **A sorted list is known by its parts**: two sorted lists that have the same outcomes under each
key, in the same order, are equal. The induction is on the first list. Its first outcome and that of
the second list have keys that are at most each other, each being somewhere in the other list, and
under this one key both lists begin alike. -/
theorem eq_of_sorted : ∀ {a b : List Outcome}, Sorted a → Sorted b →
    (∀ k, ofKey k a = ofKey k b) → a = b
  | [], [], _, _, _ => rfl
  | [], o :: b, _, _, h => by simpa [ofKey] using h o.key
  | o :: a, [], _, _, h => by simpa [ofKey] using h o.key
  | o :: a, p :: b, ha, hb, h => by
    obtain ⟨hoa, ha'⟩ := List.pairwise_cons.mp ha
    obtain ⟨hpb, hb'⟩ := List.pairwise_cons.mp hb
    have ho : o ∈ p :: b := (mem_ofKey.mp (h o.key ▸ mem_ofKey.mpr ⟨List.mem_cons_self, rfl⟩)).1
    have hp : p ∈ o :: a := (mem_ofKey.mp (h p.key ▸ mem_ofKey.mpr ⟨List.mem_cons_self, rfl⟩)).1
    -- Both lists begin with their least key, which is the same.
    have hkey : o.key = p.key := by
      rcases List.mem_cons.mp ho with rfl | ho
      · rfl
      · rcases List.mem_cons.mp hp with rfl | hp
        · rfl
        · exact Key.le_antisymm (hoa p hp) (hpb o ho)
    have hhead := h o.key
    simp only [ofKey, List.filter_cons, hkey, decide_true, if_true, List.cons.injEq] at hhead
    obtain ⟨rfl, -⟩ := hhead
    refine congrArg _ (eq_of_sorted ha' hb' fun k => ?_)
    have hk := h k
    simp only [ofKey, List.filter_cons] at hk
    split at hk
    · exact (List.cons.inj hk).2
    · exact hk

/-! ## Outcomes of different keys -/

theorem nodup_keys_perm {a b : List Outcome} (h : a.Perm b) :
    (a.map Outcome.key).Nodup ↔ (b.map Outcome.key).Nodup := (h.map _).nodup_iff

/-- Where keys differ there is at most one outcome to a key. -/
theorem ofKey_eq_singleton {outcomes : List Outcome} (hn : (outcomes.map Outcome.key).Nodup)
    {o : Outcome} (ho : o ∈ outcomes) : ofKey o.key outcomes = [o] := by
  induction outcomes with
  | nil => cases ho
  | cons p rest ih =>
    obtain ⟨hp, hn'⟩ := List.nodup_cons.mp hn
    simp only [ofKey, List.filter_cons]
    rcases List.mem_cons.mp ho with rfl | ho
    · -- No other result has this key.
      have hrest : ofKey o.key rest = [] := by
        rw [ofKey, List.filter_eq_nil_iff]
        intro q hq hk
        exact hp (of_decide_eq_true hk ▸ List.mem_map_of_mem hq)
      rw [if_pos (decide_eq_true rfl)]
      exact congrArg _ hrest
    · have hne : p.key ≠ o.key := fun h => hp (h ▸ List.mem_map_of_mem ho)
      rw [if_neg (by simpa using hne)]
      exact ih hn' ho

/-- Where keys differ, the outcomes of a key do not depend on the order of all outcomes. -/
theorem ofKey_eq_of_perm {a b : List Outcome} (h : a.Perm b) (hn : (a.map Outcome.key).Nodup)
    (k : Key) : ofKey k a = ofKey k b := by
  by_cases hk : ∃ o ∈ a, o.key = k
  · obtain ⟨o, ho, rfl⟩ := hk
    rw [ofKey_eq_singleton hn ho, ofKey_eq_singleton ((nodup_keys_perm h).mp hn) (h.mem_iff.mp ho)]
  · have hnone : ∀ {l : List Outcome}, l.Perm a → ofKey k l = [] := by
      intro l hl
      rw [ofKey, List.filter_eq_nil_iff]
      intro o ho hok
      exact hk ⟨o, hl.mem_iff.mp ho, of_decide_eq_true hok⟩
    rw [hnone (.refl a), hnone h.symm]

/-- **The order of arrival does not matter**: a report that is extended by outcomes of different
keys is the same for every order in which they come, even if some of the keys are in the report
already. -/
theorem extend_eq_of_perm (r : Report) {a b : List Outcome} (h : a.Perm b)
    (hn : (a.map Outcome.key).Nodup) : r.extend a = r.extend b := by
  have hsort : sort (r.outcomes ++ a) = sort (r.outcomes ++ b) := by
    refine eq_of_sorted (sorted_sort _) (sorted_sort _) fun k => ?_
    rw [filter_sort, filter_sort, ofKey_append, ofKey_append, ofKey_eq_of_perm h hn k]
  rw [extend, extend, hsort]

/-- The keys of sorted outcomes are known once it is known how often each occurs. -/
theorem keys_eq_of_perm {a b : List Outcome} (ha : Sorted a) (hb : Sorted b)
    (h : (a.map Outcome.key).Perm (b.map Outcome.key)) :
    a.map Outcome.key = b.map Outcome.key :=
  h.eq_of_pairwise (fun _ _ _ _ => Key.le_antisymm) (List.pairwise_map.mpr ha)
    (List.pairwise_map.mpr hb)

end Report

end Rollup.Contract
