/-
What is left to do, and why there is always something that can be done.

`effort` bounds the moves that are left. Every move takes some of it away, so that no
interleaving goes on for ever (`Move.effort_lt`). An attempt that is made again counts
thirteen, which is more than its three moves. What is over pays for the waits that a
scheduler inserts between the moves, and for this reason the moves that lead to a wait
say exactly how much they take away (`State.effort_acquire` and the lemmas after it).

All permits are free when every task that has not ended waits for one
(`Conserved.free_eq`), so that not all of them wait in vain.
-/
import Rollup.Proofs.Lists
import Rollup.Proofs.Verify.Moves

set_option autoImplicit false

namespace Rollup.Verify

open Contract (Key Record)

/-! ## What is left -/

/-- What is left to do for a task in this phase, if so many attempts are made at most. -/
def Phase.effort (attempts : Nat) : Phase → Nat
  | .queued => 13 * (attempts - 1) + 10
  | .ready n => 13 * (attempts - n) + 7
  | .calling n _ => 13 * (attempts - n) + 1
  | .resting n => 13 * (attempts - (n + 1)) + 8
  | .done _ => 0
  | .crashed => 0

/-- What is left to do for all tasks. -/
def State.effort (retry : Retry) (s : State) : Nat :=
  (s.tasks.map fun t => t.phase.effort retry.attempts).sum

variable {retry : Retry} {service : Service} {s s' : State} {i : Nat}

theorem State.effort_move (retry : Retry) {t : Task} (ht : s.tasks[i]? = some t) (q : Phase) :
    (s.move i t q).effort retry + t.phase.effort retry.attempts =
      s.effort retry + q.effort retry.attempts :=
  sum_map_set ⟨t.record, q⟩ (fun t => t.phase.effort retry.attempts) ht

/-- At the start all attempts of all tasks are left. -/
theorem State.effort_start (retry : Retry) (work : List Record) (permits : Nat) :
    (State.start work permits).effort retry = work.length * (13 * (retry.attempts - 1) + 10) := by
  simp [State.effort, State.start, Function.comp_def, Phase.effort]

theorem State.effort_acquire (retry : Retry) {r : Record} (free : Nat)
    (ht : s.tasks[i]? = some ⟨r, .queued⟩) :
    ((s.move i ⟨r, .queued⟩ (.ready 1)).setFree free).effort retry + 3 = s.effort retry := by
  have hmove := effort_move retry ht (.ready 1)
  simp only [Phase.effort] at hmove
  change (s.move i ⟨r, .queued⟩ (.ready 1)).effort retry + 3 = s.effort retry
  omega

theorem State.effort_submit (retry : Retry) {r : Record} {n : Nat} (m : Nat) (calls : List Key)
    (ht : s.tasks[i]? = some ⟨r, .ready n⟩) :
    { s.move i ⟨r, .ready n⟩ (.calling n m) with calls := calls }.effort retry + 6 =
      s.effort retry := by
  have hmove := effort_move retry ht (.calling n m)
  simp only [Phase.effort] at hmove
  change (s.move i ⟨r, .ready n⟩ (.calling n m)).effort retry + 6 = s.effort retry
  omega

/-- An attempt that is made again is not the last one that is allowed, and its thirteen pay for the
pause. -/
theorem State.effort_rest {r : Record} {n m : Nat} {a : Answer}
    (ht : s.tasks[i]? = some ⟨r, .calling n m⟩) (hd : retry.decide r n a = .again) :
    (s.move i ⟨r, .calling n m⟩ (.resting n)).effort retry + 6 = s.effort retry := by
  have hmove := effort_move retry ht (.resting n)
  have hlt : n < retry.attempts := by
    obtain ⟨-, -, -, hlt⟩ := Retry.decide_eq_again_iff.mp hd
    exact Nat.lt_of_lt_of_le hlt (Nat.le_max_right 1 _)
  simp only [Phase.effort] at hmove
  omega

theorem State.effort_resume (retry : Retry) {r : Record} {n : Nat}
    (ht : s.tasks[i]? = some ⟨r, .resting n⟩) :
    (s.move i ⟨r, .resting n⟩ (.ready (n + 1))).effort retry + 1 = s.effort retry := by
  have hmove := effort_move retry ht (.ready (n + 1))
  simp only [Phase.effort] at hmove
  omega

/-- **Every move leaves less to do.** -/
theorem Move.effort_lt (h : Move retry service s i s') : s'.effort retry < s.effort retry := by
  -- Each phase is nearer to the end than the one before it, by at least one.
  cases h with
  | acquire ht hf =>
    have hacquire := State.effort_acquire retry (s.free - 1) ht
    omega
  | @submit r n ht =>
    have hsubmit :=
      State.effort_submit retry (s.calls.count r.key + 1) (r.key :: s.calls) ht
    omega
  | @settle r n m o ht hd =>
    have hmove := State.effort_move retry ht (.done o)
    simp only [Phase.effort] at hmove
    change (s.move i ⟨r, .calling n m⟩ (.done o)).effort retry < s.effort retry
    omega
  | rest ht hd =>
    have hrest := State.effort_rest ht hd
    omega
  | @crash r n m ht hd =>
    have hmove := State.effort_move retry ht .crashed
    simp only [Phase.effort] at hmove
    change (s.move i ⟨r, .calling n m⟩ .crashed).effort retry < s.effort retry
    omega
  | resume ht =>
    have hresume := State.effort_resume retry ht
    omega

/-! ## A permit is free when only permits are waited for -/

variable {work : List Record} {permits : Nat}

/-- If every task has ended or waits for a permit, then all permits are free. -/
theorem Conserved.free_eq (h : Conserved work permits s)
    (hwait : ∀ t ∈ s.tasks, t.phase.isOver = true ∨ t.phase = .queued) : s.free = permits := by
  have hnone : s.tasks.countP (fun t => t.phase.hasPermit) = 0 := by
    refine List.countP_eq_zero.mpr fun t ht => ?_
    obtain ⟨r, p⟩ := t
    rcases hwait _ ht with hover | hqueued
    · cases p <;> simp_all [Phase.isOver, Phase.hasPermit]
    · simp_all [Phase.hasPermit]
  have hpermits := h.permits
  rw [hnone] at hpermits
  exact hpermits

end Rollup.Verify
