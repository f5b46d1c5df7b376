/-
Collecting the outcomes of tasks that have ended.

The tasks are joined one after the other, in any order. A task with an outcome adds
it and takes its key off the list of what is pending; a task that broke down adds
nothing, not even its name. What is pending in the end is a set, and its keys come
out in any order. `Collects` has both orders free, and the outcomes of a state are
one of its cases (`outcomes_collects`).

The main statement is `Dispatches.perm`: whatever the interleaving and whatever the
two orders, what is collected is the outcome of the course of each record, once.
-/
import Rollup.Proofs.Contract.Sorting
import Rollup.Proofs.Lists
import Rollup.Proofs.Verify.Moves

set_option autoImplicit false

namespace Rollup.Verify

open Contract (Key Record Outcome Report)

/-! ## Joining tasks -/

/-- What has been collected so far: the outcomes, and the keys that have none. -/
structure Collection where
  outcomes : List Outcome
  pending : List Key

namespace Collection

/-- Nothing is collected, and all keys are pending, each one once. -/
def start (work : List Record) : Collection := ⟨[], (work.map Record.key).eraseDups⟩

/-- A task that has ended is joined. -/
def join (c : Collection) (t : Task) : Collection :=
  match t.outcome? with
  | some o => ⟨c.outcomes ++ [o], c.pending.filter fun k => k ≠ o.key⟩
  | none => c

/-- All tasks are joined in the given order. -/
def joinAll (work : List Record) (tasks : List Task) : Collection := tasks.foldl join (start work)

/-- The outcomes with a failure for each key that is left, in the given order. -/
def close (c : Collection) (left : List Key) : List Outcome :=
  c.outcomes ++ left.map fun k => .failed k taskFailed

theorem foldl_join_outcomes (c : Collection) (tasks : List Task) :
    (tasks.foldl join c).outcomes = c.outcomes ++ tasks.filterMap Task.outcome? := by
  induction tasks generalizing c with
  | nil => rw [List.foldl_nil, List.filterMap_nil, List.append_nil]
  | cons t rest ih =>
    rw [List.foldl_cons, ih, join, List.filterMap_cons]
    cases t.outcome? with
    | none => rfl
    | some o => rw [List.append_assoc, List.singleton_append]

theorem foldl_join_pending (c : Collection) (tasks : List Task) :
    (tasks.foldl join c).pending =
      c.pending.filter fun k => k ∉ (tasks.filterMap Task.outcome?).map Outcome.key := by
  induction tasks generalizing c with
  | nil => simp
  | cons t rest ih =>
    rw [List.foldl_cons, ih, join, List.filterMap_cons]
    cases t.outcome? with
    | none => rfl
    | some o =>
      rw [List.filter_filter]
      refine List.filter_congr fun k _ => ?_
      simp only [List.map_cons, List.mem_cons, not_or, Bool.decide_and, Bool.and_comm]

theorem joinAll_outcomes (work : List Record) (tasks : List Task) :
    (joinAll work tasks).outcomes = tasks.filterMap Task.outcome? := foldl_join_outcomes _ _

theorem joinAll_pending (work : List Record) (tasks : List Task) :
    (joinAll work tasks).pending = (work.map Record.key).eraseDups.filter fun k =>
      k ∉ (tasks.filterMap Task.outcome?).map Outcome.key := foldl_join_pending _ _

end Collection

/-- The outcomes that can be collected from the tasks of a state: the tasks are joined in some
order, and the keys that are left come in some order. -/
inductive State.Collects (s : State) : List Outcome → Prop where
  | intro {joined : List Task} {left : List Key} :
    joined.Perm s.tasks →
    left.Perm (Collection.joinAll (s.tasks.map Task.record) joined).pending →
    s.Collects ((Collection.joinAll (s.tasks.map Task.record) joined).close left)

/-- What submitting records can come to: some interleaving leads to a state in which all tasks have
ended, and their outcomes are collected. -/
inductive Dispatches (c : Config) (service : Service) (work : List Record) :
    State → List Outcome → Prop where
  | intro {permits : Nat} {s : State} {results : List Outcome} :
    c.permits? = some permits →
    Reachable c.retry service (.start work permits) s →
    s.isComplete = true →
    s.Collects results →
    Dispatches c service work s results

/-! ## The order in which tasks ended is one in which they can be joined -/

/-- A rearrangement of what `f` finds in a list comes from a rearrangement of the list. -/
theorem exists_perm_filterMap {α β : Type} (f : α → Option β) {l : List α} {m : List β}
    (h : m.Perm (l.filterMap f)) : ∃ l' : List α, l'.Perm l ∧ l'.filterMap f = m := by
  induction m generalizing l with
  | nil => exact ⟨l, .refl l, h.nil_eq.symm⟩
  | cons b m ih =>
    -- The first of the rearrangement was found in some element, which is brought to the front.
    obtain ⟨a, ha, hab⟩ := List.mem_filterMap.mp (h.mem_iff.mp List.mem_cons_self)
    obtain ⟨l₁, l₂, rfl⟩ := List.append_of_mem ha
    have hperm : (l₁ ++ a :: l₂).Perm (a :: (l₁ ++ l₂)) := List.perm_middle
    have hrest : m.Perm ((l₁ ++ l₂).filterMap f) := by
      have hb := h.trans (hperm.filterMap f)
      rw [List.filterMap_cons_some hab] at hb
      exact hb.cons_inv
    obtain ⟨l', hl', rfl⟩ := ih hrest
    exact ⟨a :: l', (hl'.cons a).trans hperm.symm, List.filterMap_cons_some hab⟩

/-- The outcomes of a state are what is collected from its tasks in the order in which they
ended. -/
theorem outcomes_collects {work : List Record} {permits : Nat} {s : State}
    (h : Conserved work permits s) : s.Collects s.outcomes := by
  obtain ⟨joined, hperm, hjoined⟩ := exists_perm_filterMap Task.outcome? h.ended
  have hpending : s.pending = (Collection.joinAll (s.tasks.map Task.record) joined).pending := by
    rw [Collection.joinAll_pending, hjoined, State.pending, List.map_map]
    rfl
  have hout : s.outcomes =
      (Collection.joinAll (s.tasks.map Task.record) joined).close s.pending := by
    rw [Collection.close, Collection.joinAll_outcomes, hjoined, State.outcomes]
  rw [hout]
  exact .intro hperm (.of_eq hpending)

/-! ## One outcome to a record -/

section

variable {retry : Retry} {service : Service} {work : List Record} {permits : Nat} {s : State}
  {results : List Outcome}

/-- What the tasks of a state have come to, joined in some order, is what the courses of the records
have come to. -/
theorem filterMap_outcome_perm (hw : (work.map Record.key).Nodup)
    (hr : Reachable retry service (.start work permits) s) (hs : s.isComplete = true)
    {joined : List Task} (hj : joined.Perm s.tasks) :
    (joined.filterMap Task.outcome?).Perm
      (work.filterMap fun r => (retry.course r (service.answers r)).outcome) := by
  have hover : ∀ t ∈ s.tasks, t.phase.isOver = true := List.all_eq_true.mp hs
  have heq : joined.filterMap Task.outcome? =
      (joined.map Task.record).filterMap fun r => (retry.course r (service.answers r)).outcome := by
    rw [List.filterMap_map]
    refine List.filterMap_congr fun t ht => ?_
    have ht' : t ∈ s.tasks := hj.mem_iff.mp ht
    exact (hr.onCourse hw).outcome_eq ht' (hover t ht')
  rw [heq, ← hr.conserved.records]
  exact (hj.map _).filterMap _

/-- The keys without an outcome are those of the records whose courses have none. -/
theorem pending_perm (hw : (work.map Record.key).Nodup)
    (hr : Reachable retry service (.start work permits) s) (hs : s.isComplete = true)
    {joined : List Task} (hj : joined.Perm s.tasks) :
    (Collection.joinAll (s.tasks.map Task.record) joined).pending =
      (work.filter fun r => (retry.course r (service.answers r)).outcome.isNone).map
        Record.key := by
  rw [Collection.joinAll_pending, hr.conserved.records, eraseDups_eq_self hw, List.filter_map]
  refine congrArg _ (List.filter_congr fun r hmem => ?_)
  have hkeys : r.key ∈ (joined.filterMap Task.outcome?).map Outcome.key ↔
      (retry.course r (service.answers r)).outcome.isSome = true := by
    rw [((filterMap_outcome_perm hw hr hs hj).map _).mem_iff, List.mem_map]
    constructor
    · rintro ⟨o, ho, hk⟩
      -- A result with this key is the one of this record, because no other has the key.
      obtain ⟨q, hq, hqo⟩ := List.mem_filterMap.mp ho
      have hqk : q.key = r.key := by rw [← hk, Retry.key_outcome_course hqo]
      rw [← List.inj_on_of_nodup_map hw hq hmem hqk, hqo]
      rfl
    · intro hsome
      obtain ⟨o, ho⟩ := Option.isSome_iff_exists.mp hsome
      exact ⟨o, List.mem_filterMap.mpr ⟨r, hmem, ho⟩, Retry.key_outcome_course ho⟩
  simp only [Function.comp_apply, hkeys]
  cases (retry.course r (service.answers r)).outcome with
  | none => rfl
  | some o => rfl

/-- **What is collected is the outcome of the course of each record, once**, whatever the order in
which the tasks are joined. -/
theorem collects_perm (hw : (work.map Record.key).Nodup)
    (hr : Reachable retry service (.start work permits) s) (hs : s.isComplete = true)
    (hc : s.Collects results) :
    results.Perm (work.map fun r => (retry.course r (service.answers r)).settle r) := by
  obtain ⟨hj, hl⟩ := hc
  rw [Collection.close, Collection.joinAll_outcomes]
  -- The records whose courses have an outcome and those whose courses have none are all records.
  let settled : Record → Bool := fun r => (retry.course r (service.answers r)).outcome.isSome
  have hyes : (work.filterMap fun r => (retry.course r (service.answers r)).outcome) =
      (work.filter settled).map fun r => (retry.course r (service.answers r)).settle r := by
    rw [← List.filterMap_eq_map, List.filterMap_filter]
    refine List.filterMap_congr fun r _ => ?_
    cases h : (retry.course r (service.answers r)).outcome with
    | none => simp [settled, h]
    | some o => simp [settled, h, Course.settle]
  have hno : ((work.filter fun r => !settled r).map Record.key).map
        (fun k => .failed k taskFailed) =
      (work.filter fun r => !settled r).map fun r =>
        (retry.course r (service.answers r)).settle r := by
    rw [List.map_map]
    refine List.map_congr_left fun r hmem => ?_
    have hnone : (retry.course r (service.answers r)).outcome = none := by
      simpa [settled] using (List.mem_filter.mp hmem).2
    rw [Course.settle, hnone]
    rfl
  have hpending := hl.trans (.of_eq (pending_perm hw hr hs hj))
  have hnot : (fun r => (retry.course r (service.answers r)).outcome.isNone) =
      fun r => !settled r := by
    funext r
    simp only [settled, Option.not_isSome]
  rw [hnot] at hpending
  refine ((filterMap_outcome_perm hw hr hs hj).append (hpending.map _)).trans ?_
  rw [hyes, hno, ← List.map_append]
  exact (List.filter_append_perm settled work).map _

end

namespace Dispatches

variable {c : Config} {service : Service} {work : List Record} {s : State}
  {results : List Outcome}

theorem perm (hw : (work.map Record.key).Nodup) (h : Dispatches c service work s results) :
    results.Perm (work.map fun r => (c.retry.course r (service.answers r)).settle r) := by
  obtain ⟨-, hr, hs, hc⟩ := h
  exact collects_perm hw hr hs hc

/-- The results have the keys of the records. -/
theorem keys_perm (hw : (work.map Record.key).Nodup) (h : Dispatches c service work s results) :
    (results.map Outcome.key).Perm (work.map Record.key) := by
  refine ((h.perm hw).map _).trans (.of_eq ?_)
  rw [List.map_map]
  exact List.map_congr_left fun r _ => Retry.key_settle

/-- Under the key of a record stands the outcome of its course, and nothing else. -/
theorem ofKey_eq (hw : (work.map Record.key).Nodup) (h : Dispatches c service work s results)
    {r : Record} (hr : r ∈ work) :
    Report.ofKey r.key results = [(c.retry.course r (service.answers r)).settle r] := by
  have hn : (results.map Outcome.key).Nodup := (h.keys_perm hw).nodup_iff.mpr hw
  have hmem : (c.retry.course r (service.answers r)).settle r ∈ results :=
    (h.perm hw).mem_iff.mpr (List.mem_map_of_mem hr)
  have hsingle := Report.ofKey_eq_singleton hn hmem
  rwa [Retry.key_settle] at hsingle

theorem records (h : Dispatches c service work s results) : s.tasks.map Task.record = work := by
  obtain ⟨-, hr, -, -⟩ := h
  exact hr.conserved.records

/-- A task broke down exactly if the course of its record says so. -/
theorem crashed_iff (hw : (work.map Record.key).Nodup) (h : Dispatches c service work s results)
    {t : Task} (ht : t ∈ s.tasks) :
    t.phase = .crashed ↔ (c.retry.course t.record (service.answers t.record)).outcome = none := by
  obtain ⟨-, hr, hs, -⟩ := h
  have hover : t.phase.isOver = true := List.all_eq_true.mp hs t ht
  rw [← (hr.onCourse hw).outcome_eq ht hover, Task.outcome?]
  cases hp : t.phase <;> simp_all [Phase.isOver]

end Dispatches

end Rollup.Verify
