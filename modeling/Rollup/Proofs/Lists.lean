/-
Lists with one element replaced, lists with each element once, and how often an element occurs, or
where one occurs last.

A list is updated at one place when one of several tasks goes on, and a sum over the tasks moves by
what this one does (`sum_map_set`). Requests that are repeated are merged by keeping the first of
each (`perm_eraseDups`, `eraseDups_append_of_disjoint`), and none of them is made too often if the
lists in which it occurs do not add up (`count_flatMap_le`).
-/
import Mathlib.Algebra.GroupWithZero.Nat
import Mathlib.Data.List.Count
import Mathlib.Data.List.Nodup

set_option autoImplicit false

namespace Rollup

variable {α : Type} {l : List α} {i j : Nat} {a b : α}

/-! ## Replacing an element -/

/-- Replacing an element moves a sum by what the two elements add to it. -/
theorem sum_map_set (b : α) (f : α → Nat) (h : l[j]? = some a) :
    ((l.set j b).map f).sum + f a = (l.map f).sum + f b := by
  induction l generalizing j with
  | nil => cases h
  | cons c rest ih =>
    cases j with
    | zero =>
      obtain rfl : c = a := by simpa using h
      rw [List.set_cons_zero, List.map_cons, List.map_cons, List.sum_cons, List.sum_cons]
      omega
    | succ j =>
      have hrest := ih (by simpa using h)
      rw [List.set_cons_succ, List.map_cons, List.map_cons, List.sum_cons, List.sum_cons]
      omega

theorem getElem?_set_cases (h : (l.set i a)[j]? = some b) :
    i = j ∧ b = a ∨ i ≠ j ∧ l[j]? = some b := by
  by_cases hij : i = j
  · subst hij
    obtain ⟨hlt, hget⟩ := List.getElem?_eq_some_iff.mp h
    rw [List.getElem_set_self] at hget
    exact .inl ⟨rfl, hget.symm⟩
  · rw [List.getElem?_set_ne hij] at h
    exact .inr ⟨hij, h⟩

/-! ## Each element once -/

section

variable [DecidableEq α]

theorem eraseDups_eq_self (h : l.Nodup) : l.eraseDups = l := by
  induction l with
  | nil => rfl
  | cons a l ih =>
    obtain ⟨ha, hl⟩ := List.nodup_cons.mp h
    have hfilter : (l.filter fun b => !b == a) = l := by
      rw [List.filter_eq_self]
      intro b hb
      have hne : b ≠ a := fun hba => ha (hba ▸ hb)
      simpa using hne
    rw [List.eraseDups_cons, hfilter, ih hl]

theorem nodup_eraseDups (l : List α) : l.eraseDups.Nodup := by
  match l with
  | [] => exact List.nodup_nil
  | a :: l =>
    rw [List.eraseDups_cons, List.nodup_cons]
    constructor
    · intro ha
      have hmem := List.mem_eraseDups.mp ha
      simp at hmem
    · exact nodup_eraseDups _
termination_by l.length
decreasing_by exact Nat.lt_succ_of_le (List.length_filter_le _ _)

/-- What is kept of a list are its elements, each one once. -/
theorem perm_eraseDups {m : List α} (hm : m.Nodup) (h : ∀ a, a ∈ l ↔ a ∈ m) :
    l.eraseDups.Perm m := by
  rw [List.perm_ext_iff_of_nodup (nodup_eraseDups l) hm]
  intro a
  rw [List.mem_eraseDups, h]

theorem eraseDups_append_of_disjoint {m : List α} (h : ∀ a ∈ l, a ∉ m) :
    (l ++ m).eraseDups = l.eraseDups ++ m.eraseDups := by
  have hremove : m.removeAll l = m := by
    rw [List.removeAll, List.filter_eq_self]
    intro a ha
    have hnot : a ∉ l := fun hl => h a hl ha
    simpa using hnot
  rw [List.eraseDups_append, hremove]

end

/-! ## How often an element occurs -/

/-- What occurs in the list of one index only occurs in all lists together no more often than it may
in one of them. -/
theorem count_flatMap_le [DecidableEq α] {ι : Type} {f : ι → List α} {is : List ι} {most : Nat}
    (hmost : ∀ i ∈ is, (f i).count a ≤ most)
    (hone : is.Pairwise fun i j => a ∈ f i → a ∉ f j) : (is.flatMap f).count a ≤ most := by
  induction is with
  | nil => exact Nat.zero_le _
  | cons i is ih =>
    obtain ⟨hi, his⟩ := List.pairwise_cons.mp hone
    have hrest := ih (fun j hj => hmost j (List.mem_cons_of_mem i hj)) his
    rw [List.flatMap_cons, List.count_append]
    -- If it is in this list, then it is in no other one.
    by_cases ha : a ∈ f i
    · have hzero : (is.flatMap f).count a = 0 := by
        rw [List.count_eq_zero]
        intro hmem
        obtain ⟨j, hj, haj⟩ := List.mem_flatMap.mp hmem
        exact hi j hj ha haj
      have hself := hmost i List.mem_cons_self
      omega
    · rw [List.count_eq_zero.mpr ha]
      omega

theorem count_map_le {β : Type} [DecidableEq α] [DecidableEq β] {f : α → β}
    (hf : Function.Injective f) {most : Nat} (h : ∀ a, l.count a ≤ most) (b : β) :
    (l.map f).count b ≤ most := by
  by_cases hb : b ∈ l.map f
  · obtain ⟨a, -, rfl⟩ := List.mem_map.mp hb
    rw [List.count_map_of_injective l f hf]
    exact h a
  · rw [List.count_eq_zero.mpr hb]
    exact Nat.zero_le most

/-! ## Pairs -/

theorem map_fst_zip {β : Type} (l : List α) (m : List β) :
    (l.zip m).map Prod.fst = l.take m.length := by
  induction l generalizing m with
  | nil => rw [List.take_nil, List.zip_nil_left, List.map_nil]
  | cons a l ih =>
    cases m with
    | nil => rfl
    | cons b m => rw [List.zip_cons_cons, List.map_cons, ih, List.length_cons, List.take_succ_cons]

/-- Second parts that are images come from pairs with what they are images of. -/
theorem exists_pairs {β γ : Type} {f : β → γ} {ps : List (α × γ)} {bs : List β}
    (h : ps.map Prod.snd = bs.map f) :
    ∃ qs : List (α × β), qs.map Prod.snd = bs ∧ ps = qs.map fun q => (q.1, f q.2) := by
  induction ps generalizing bs with
  | nil =>
    rw [List.map_nil, eq_comm, List.map_eq_nil_iff] at h
    exact ⟨[], h.symm, rfl⟩
  | cons p ps ih =>
    obtain ⟨b, bs', rfl, hb, hbs⟩ := List.map_eq_cons_iff.mp h.symm
    obtain ⟨qs, rfl, rfl⟩ := ih hbs.symm
    refine ⟨(p.1, b) :: qs, rfl, ?_⟩
    rw [List.map_cons, hb]

/-! ## The last element of a kind -/

/-- The last element that a test finds, and the elements behind it that it does not. -/
theorem find?_reverse_map_eq_some_iff {β : Type} {f : α → β} {p : β → Bool} {b : β} :
    (l.map f).reverse.find? p = some b ↔ ∃ before a after, l = before ++ a :: after ∧ f a = b ∧
      p b = true ∧ ∀ x ∈ after, p (f x) = false := by
  rw [List.find?_eq_some_iff_append]
  constructor
  · rintro ⟨hp, back, front, heq, hback⟩
    -- What stands behind it in the reversed list stood in front of it.
    rw [List.reverse_eq_append_iff, List.reverse_cons, List.append_assoc, List.singleton_append,
      List.map_eq_append_iff] at heq
    obtain ⟨before, rest, rfl, -, hrest⟩ := heq
    obtain ⟨a, after, rfl, hfa, hafter⟩ := List.map_eq_cons_iff.mp hrest
    refine ⟨before, a, after, rfl, hfa, hp, fun x hx => ?_⟩
    have hmem : f x ∈ back := by
      rw [← List.mem_reverse, ← hafter]
      exact List.mem_map_of_mem hx
    simpa using hback _ hmem
  · rintro ⟨before, a, after, rfl, rfl, hp, hafter⟩
    refine ⟨hp, (after.map f).reverse, (before.map f).reverse, by simp, fun y hy => ?_⟩
    obtain ⟨x, hx, rfl⟩ := List.mem_map.mp (List.mem_reverse.mp hy)
    simp [hafter x hx]

end Rollup
