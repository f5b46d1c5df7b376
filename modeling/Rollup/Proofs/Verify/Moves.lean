/-
What a task can do when its turn comes, and what every interleaving keeps.

`Move` lists the six things that one turn can be, with what each needs and what it
leaves. It is `State.next` read as a relation (`next_eq_some_iff`), so that an
invariant of all interleavings is an induction over `Reachable` with six cases.

Three invariants need nothing of the work list: the tasks stand for its records,
the permits that are held or free stay the same in number, and the outcomes so far
are those of the tasks that are done. The fourth one, that every task is where the
course of its record has got to, needs keys that differ. The submissions are counted
by key, and two records with one key would count each other's.
-/
import Mathlib.Algebra.GroupWithZero.Nat
import Mathlib.Data.List.Nodup
import Rollup.Proofs.Verify.Course
import Rollup.Verify.Dispatch

set_option autoImplicit false

namespace Rollup.Verify

open Contract (Key Record Outcome)

/-- The answers that a service gives to a record, by attempt. -/
def Service.answers (service : Service) (r : Record) (n : Nat) : Answer := (service r n).answer

/-- The outcome of a task that is done. -/
def Task.outcome? (t : Task) : Option Outcome :=
  match t.phase with
  | .done o => some o
  | _ => none

/-! ## The moves -/

/-- One turn of task `i`. -/
inductive Move (retry : Retry) (service : Service) (s : State) (i : Nat) : State → Prop where
  /-- It takes a permit. -/
  | acquire {r : Record} : s.tasks[i]? = some ⟨r, .queued⟩ → s.free ≠ 0 →
    Move retry service s i ((s.move i ⟨r, .queued⟩ (.ready 1)).setFree (s.free - 1))
  /-- It submits its record. -/
  | submit {r : Record} {n : Nat} : s.tasks[i]? = some ⟨r, .ready n⟩ →
    Move retry service s i { s.move i ⟨r, .ready n⟩ (.calling n (s.calls.count r.key + 1)) with
      calls := r.key :: s.calls }
  /-- The answer settles the outcome. -/
  | settle {r : Record} {n m : Nat} {o : Outcome} : s.tasks[i]? = some ⟨r, .calling n m⟩ →
    retry.decide r n (service r m).answer = .settled o →
    Move retry service s i (s.settle i ⟨r, .calling n m⟩ o)
  /-- The answer is a failure that may pass. -/
  | rest {r : Record} {n m : Nat} : s.tasks[i]? = some ⟨r, .calling n m⟩ →
    retry.decide r n (service r m).answer = .again →
    Move retry service s i (s.move i ⟨r, .calling n m⟩ (.resting n))
  /-- It breaks down. -/
  | crash {r : Record} {n m : Nat} : s.tasks[i]? = some ⟨r, .calling n m⟩ →
    retry.decide r n (service r m).answer = .broken →
    Move retry service s i ((s.move i ⟨r, .calling n m⟩ .crashed).setFree (s.free + 1))
  /-- Its pause is over. -/
  | resume {r : Record} {n : Nat} : s.tasks[i]? = some ⟨r, .resting n⟩ →
    Move retry service s i (s.move i ⟨r, .resting n⟩ (.ready (n + 1)))

variable {retry : Retry} {service : Service} {s s' : State} {i : Nat}

theorem State.next_eq_some_iff : s.next retry service i = some s' ↔ Move retry service s i s' := by
  constructor
  · intro h
    unfold next at h
    cases ht : s.tasks[i]? with
    | none =>
      rw [ht] at h
      cases h
    | some t =>
      obtain ⟨r, p⟩ := t
      rw [ht] at h
      cases p with
      | queued =>
        dsimp only at h
        -- A record that waits goes on only if a permit is free.
        by_cases hf : s.free = 0
        · rw [if_pos hf] at h
          cases h
        · rw [if_neg hf] at h
          cases h
          exact .acquire ht hf
      | ready n =>
        cases h
        exact .submit ht
      | calling n m =>
        dsimp only at h
        -- The answer says how it goes on.
        cases hd : retry.decide r n (service r m).answer with
        | settled o =>
          rw [hd] at h
          cases h
          exact .settle ht hd
        | again =>
          rw [hd] at h
          cases h
          exact .rest ht hd
        | broken =>
          rw [hd] at h
          cases h
          exact .crash ht hd
      | resting n =>
        cases h
        exact .resume ht
      | done o => cases h
      | crashed => cases h
  · intro h
    cases h with
    | acquire ht hf => simp only [next, ht, if_neg hf]
    | submit ht => simp only [next, ht]
    | settle ht hd => simp only [next, ht, hd]
    | rest ht hd => simp only [next, ht, hd]
    | crash ht hd => simp only [next, ht, hd]
    | resume ht => simp only [next, ht]

/-- A task that cannot move has ended, or waits for a permit while none is free. -/
theorem State.next_eq_none {t : Task} (ht : s.tasks[i]? = some t)
    (h : s.next retry service i = none) :
    t.phase.isOver = true ∨ t.phase = .queued ∧ s.free = 0 := by
  obtain ⟨r, p⟩ := t
  -- Each phase has its move, but for those that are over and the queue.
  have hmove : ∀ s', ¬ Move retry service s i s' := fun s' hm => by
    rw [State.next_eq_some_iff.mpr hm] at h
    cases h
  cases p with
  | queued =>
    by_cases hf : s.free = 0
    · exact .inr ⟨rfl, hf⟩
    · exact absurd (.acquire ht hf) (hmove _)
  | ready n => exact absurd (.submit ht) (hmove _)
  | calling n m =>
    cases hd : retry.decide r n (service r m).answer with
    | settled o => exact absurd (.settle ht hd) (hmove _)
    | again => exact absurd (.rest ht hd) (hmove _)
    | broken => exact absurd (.crash ht hd) (hmove _)
  | resting n => exact absurd (.resume ht) (hmove _)
  | done o => exact .inl rfl
  | crashed => exact .inl rfl

theorem State.phase?_move {t : Task} (ht : s.tasks[i]? = some t) (q : Phase) :
    (s.move i t q).phase? i = some q := by
  obtain ⟨hlt, -⟩ := List.getElem?_eq_some_iff.mp ht
  rw [phase?, move, List.getElem?_set_self hlt, Option.map_some]

/-- **The effect of a move**: one task, which had no outcome, goes to another phase. The permit that
it thereby takes or gives back is one fewer or one more that is free, and the outcome that it
thereby gets is the next one. -/
theorem Move.effect (h : Move retry service s i s') :
    ∃ r p q, s.tasks[i]? = some ⟨r, p⟩ ∧ s'.tasks = s.tasks.set i ⟨r, q⟩ ∧
      s'.free + q.hasPermit.toNat = s.free + p.hasPermit.toNat ∧
      (Task.mk r p).outcome? = none ∧ s'.ended = s.ended ++ (Task.mk r q).outcome?.toList := by
  cases h with
  | acquire ht hf =>
    have hfree : s.free - 1 + 1 = s.free := by omega
    exact ⟨_, _, _, ht, rfl, hfree, rfl, (List.append_nil _).symm⟩
  | submit ht => exact ⟨_, _, _, ht, rfl, rfl, rfl, (List.append_nil _).symm⟩
  | settle ht hd => exact ⟨_, _, _, ht, rfl, rfl, rfl, rfl⟩
  | rest ht hd => exact ⟨_, _, _, ht, rfl, rfl, rfl, (List.append_nil _).symm⟩
  | crash ht hd => exact ⟨_, _, _, ht, rfl, rfl, rfl, (List.append_nil _).symm⟩
  | resume ht => exact ⟨_, _, _, ht, rfl, rfl, rfl, (List.append_nil _).symm⟩

/-! ## What every interleaving keeps -/

/-- Replacing an element by one that `f` does not tell from it does not change what `f` makes of a
list. -/
theorem map_set_of_eq {α β : Type} {l : List α} {j : Nat} {a b : α} (f : α → β)
    (h : l[j]? = some a) (hf : f a = f b) : (l.set j b).map f = l.map f := by
  have hj : (l.map f)[j]? = some (f b) := by rw [List.getElem?_map, h, ← hf, Option.map_some]
  obtain ⟨hlt, hval⟩ := List.getElem?_eq_some_iff.mp hj
  rw [List.map_set, ← hval, List.set_getElem_self]

/-- Replacing an element moves a count by what the two elements count. -/
theorem countP_set_add {α : Type} {l : List α} {j : Nat} {a : α} (b : α) (p : α → Bool)
    (h : l[j]? = some a) :
    (l.set j b).countP p + (p a).toNat = l.countP p + (p b).toNat := by
  obtain ⟨hj, rfl⟩ := List.getElem?_eq_some_iff.mp h
  have hpos : p l[j] = true → 0 < l.countP p := fun hp =>
    List.countP_pos_iff.mpr ⟨l[j], List.getElem_mem hj, hp⟩
  rw [List.countP_set hj]
  cases ha : p l[j] with
  | false => cases hb : p b <;> simp
  | true =>
    have := hpos ha
    cases hb : p b <;> simp <;> omega

/-- A task that had no outcome and gets one adds it to the outcomes, wherever the task stands. -/
theorem filterMap_set_perm {l : List Task} {j : Nat} {t u : Task} (h : l[j]? = some t)
    (ht : t.outcome? = none) :
    ((l.set j u).filterMap Task.outcome?).Perm
      (l.filterMap Task.outcome? ++ u.outcome?.toList) := by
  induction l generalizing j with
  | nil => cases h
  | cons a rest ih =>
    cases j with
    | zero =>
      -- This is the task that is set; it had no outcome, and so none is lost.
      obtain rfl : a = t := by simpa using h
      rw [List.set_cons_zero, List.filterMap_cons_none ht]
      cases hu : u.outcome? with
      | none => simp [List.filterMap_cons_none hu]
      | some o =>
        rw [List.filterMap_cons_some hu]
        exact (List.perm_append_singleton o _).symm
    | succ j =>
      have hrest := ih (by simpa using h)
      rw [List.set_cons_succ, List.filterMap_cons, List.filterMap_cons]
      cases a.outcome? with
      | none => exact hrest
      | some o => exact hrest.cons o

/-- What holds in every state that some interleaving leads to. -/
structure Conserved (work : List Record) (permits : Nat) (s : State) : Prop where
  /-- The tasks stand for the records, in order. -/
  records : s.tasks.map Task.record = work
  /-- A permit is held or free. -/
  permits : s.free + s.tasks.countP (fun t => t.phase.hasPermit) = permits
  /-- The outcomes so far are those of the tasks that are done. -/
  ended : s.ended.Perm (s.tasks.filterMap Task.outcome?)

variable {work : List Record} {permits : Nat}

theorem Conserved.start (work : List Record) (permits : Nat) :
    Conserved work permits (.start work permits) := by
  refine ⟨?_, ?_, ?_⟩
  · simp [State.start, Function.comp_def]
  · have h : (work.map fun r => Task.mk r .queued).countP (fun t => t.phase.hasPermit) = 0 :=
      List.countP_eq_zero.mpr fun t ht => by
        obtain ⟨r, -, rfl⟩ := List.mem_map.mp ht
        simp [Phase.hasPermit]
    simp only [State.start, h, Nat.add_zero]
  · have h : (work.map fun r => Task.mk r .queued).filterMap Task.outcome? = [] :=
      List.filterMap_eq_nil_iff.mpr fun t ht => by
        obtain ⟨r, -, rfl⟩ := List.mem_map.mp ht
        rfl
    simp only [State.start, h, List.Perm.refl]

theorem Conserved.step (hs : Conserved work permits s) (h : Move retry service s i s') :
    Conserved work permits s' := by
  obtain ⟨r, p, q, ht, hset, hfree, hnone, hended⟩ := h.effect
  refine ⟨?_, ?_, ?_⟩
  · have hmap : (s.tasks.set i ⟨r, q⟩).map Task.record = s.tasks.map Task.record :=
      map_set_of_eq Task.record ht rfl
    rw [hset, hmap, hs.records]
  · have hheld := countP_set_add ⟨r, q⟩ (fun t : Task => t.phase.hasPermit) ht
    have hpermits := hs.permits
    dsimp only at hheld
    rw [hset]
    omega
  · rw [hset, hended]
    exact (hs.ended.append_right _).trans (filterMap_set_perm ht hnone).symm

theorem Reachable.conserved (h : Reachable retry service (.start work permits) s) :
    Conserved work permits s := by
  induction h with
  | start => exact .start work permits
  | next i _ hn ih => exact ih.step (State.next_eq_some_iff.mp hn)

/-! ## Where the tasks are -/

/-- A phase fits the course of a record for whose key `made` submissions were made. -/
def Phase.Fits (retry : Retry) (service : Service) (r : Record) (made : Nat) : Phase → Prop
  | .queued => made = 0
  | .ready n => made + 1 = n ∧ retry.Reaches r (service.answers r) n
  | .calling n m => made = n ∧ m = n ∧ retry.Reaches r (service.answers r) n
  | .resting n => made = n ∧ retry.Reaches r (service.answers r) (n + 1)
  | .done o => retry.Reaches r (service.answers r) made ∧
      retry.decide r made (service.answers r made) = .settled o
  | .crashed => retry.Reaches r (service.answers r) made ∧
      retry.decide r made (service.answers r made) = .broken

/-- Every task is where the course of its record has got to. -/
def OnCourse (retry : Retry) (service : Service) (s : State) : Prop :=
  ∀ (j : Nat) (t : Task), s.tasks[j]? = some t →
    t.phase.Fits retry service t.record (s.calls.count t.record.key)

theorem OnCourse.start : OnCourse retry service (.start work permits) := by
  intro j t ht
  obtain ⟨r, -, rfl⟩ := List.mem_map.mp (List.mem_of_getElem? ht)
  rfl

/-- The phase that a move leads to fits if the one before did. The submissions are counted after
the move. -/
theorem Move.fits (hs : OnCourse retry service s) (h : Move retry service s i s') :
    ∃ r p q, s.tasks[i]? = some ⟨r, p⟩ ∧ s'.tasks = s.tasks.set i ⟨r, q⟩ ∧
      (s'.calls = s.calls ∨ s'.calls = r.key :: s.calls) ∧
      q.Fits retry service r (s'.calls.count r.key) := by
  cases h with
  | acquire ht hf =>
    refine ⟨_, _, _, ht, rfl, .inl rfl, ?_⟩
    have hmade : s.calls.count _ = 0 := hs i _ ht
    exact ⟨congrArg (· + 1) hmade, .one⟩
  | submit ht =>
    refine ⟨_, _, _, ht, rfl, .inr rfl, ?_⟩
    obtain ⟨hmade, hreach⟩ := hs i _ ht
    exact ⟨List.count_cons_self.trans hmade, hmade, hreach⟩
  | @settle r n m o ht hd =>
    refine ⟨_, _, _, ht, rfl, .inl rfl, ?_⟩
    -- The submission under way has the number of the attempt, which is how many were made.
    obtain ⟨hmade, rfl, hreach⟩ := hs i _ ht
    have hmade : s.calls.count r.key = m := hmade
    rw [← hmade] at hd hreach
    exact ⟨hreach, hd⟩
  | rest ht hd =>
    refine ⟨_, _, _, ht, rfl, .inl rfl, ?_⟩
    obtain ⟨hmade, rfl, hreach⟩ := hs i _ ht
    exact ⟨hmade, hreach.succ hd⟩
  | @crash r n m ht hd =>
    refine ⟨_, _, _, ht, rfl, .inl rfl, ?_⟩
    obtain ⟨hmade, rfl, hreach⟩ := hs i _ ht
    have hmade : s.calls.count r.key = m := hmade
    rw [← hmade] at hd hreach
    exact ⟨hreach, hd⟩
  | resume ht =>
    refine ⟨_, _, _, ht, rfl, .inl rfl, ?_⟩
    obtain ⟨hmade, hreach⟩ := hs i _ ht
    exact ⟨congrArg (· + 1) hmade, hreach⟩

/-- A move of one task leaves the count of submissions of every other task alone, because the keys
differ. -/
theorem OnCourse.step (hn : (s.tasks.map fun t => t.record.key).Nodup)
    (hs : OnCourse retry service s) (h : Move retry service s i s') :
    OnCourse retry service s' := by
  obtain ⟨r, p, q, ht, hset, hcalls, hfits⟩ := h.fits hs
  intro j t hj
  rw [hset, List.getElem?_set] at hj
  by_cases hij : i = j
  · subst hij
    obtain ⟨hlt, -⟩ := List.getElem?_eq_some_iff.mp ht
    rw [if_pos rfl, if_pos hlt] at hj
    cases hj
    exact hfits
  · rw [if_neg hij] at hj
    -- Another task has another key, so that a submission of this one is none of its own.
    have hkey : r.key ≠ t.record.key := by
      intro hk
      have hi : i < (s.tasks.map fun t => t.record.key).length := by
        rw [List.length_map]
        exact (List.getElem?_eq_some_iff.mp ht).1
      refine hij ((List.getElem?_inj hi hn).mp ?_)
      rw [List.getElem?_map, List.getElem?_map, ht, hj]
      exact congrArg some hk
    have hcount : s'.calls.count t.record.key = s.calls.count t.record.key := by
      rcases hcalls with hc | hc
      · rw [hc]
      · rw [hc, List.count_cons_of_ne hkey]
    rw [hcount]
    exact hs j t hj

theorem Reachable.onCourse (hw : (work.map Record.key).Nodup)
    (h : Reachable retry service (.start work permits) s) : OnCourse retry service s := by
  induction h with
  | start => exact .start
  | @next s s' i hr hn ih =>
    have hkeys : s.tasks.map (fun t => t.record.key) = work.map Record.key := by
      rw [← hr.conserved.records, List.map_map]
      rfl
    exact ih.step (hkeys ▸ hw) (State.next_eq_some_iff.mp hn)

/-- **A task that has ended has the outcome of the course of its record**, and none if the task
broke down. -/
theorem OnCourse.outcome_eq (hs : OnCourse retry service s) {t : Task} (ht : t ∈ s.tasks)
    (hover : t.phase.isOver = true) :
    t.outcome? = (retry.course t.record (service.answers t.record)).outcome := by
  -- A task that is over has reached the attempt that decides its course.
  obtain ⟨j, hj⟩ := List.mem_iff_getElem?.mp ht
  have hfits := hs j t hj
  obtain ⟨r, p⟩ := t
  cases p with
  | done o =>
    obtain ⟨hreach, hd⟩ := hfits
    rw [(Retry.course_spec hreach (by rw [hd]; exact nofun)).2, hd]
    rfl
  | crashed =>
    obtain ⟨hreach, hd⟩ := hfits
    rw [(Retry.course_spec hreach (by rw [hd]; exact nofun)).2, hd]
    rfl
  | queued => cases hover
  | ready n => cases hover
  | calling n m => cases hover
  | resting n => cases hover

end Rollup.Verify
