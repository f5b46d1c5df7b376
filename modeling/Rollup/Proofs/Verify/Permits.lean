/-
Permits and submissions, turn by turn.

`Leads` keeps the turns that led to a state, each with the state before and after it. What a
turn did is read off these two states: how many permits it took or gave back, and how many
submissions it made. Added up over the turns of one task this is an account, and the account
agrees with the phase that the task is in (`Account`). So a task holds a permit exactly while
it has taken one and not given it back, it submits its record only then, and it does so no
more often than attempts are allowed.

Nothing here asks that the records have different keys. The submissions of a task are
counted by its turns and not by the key of its record.
-/
import Rollup.Proofs.Verify.Progress

set_option autoImplicit false

namespace Rollup.Verify

open Contract (Key Record Outcome)

/-! ## Turns -/

/-- A turn that a task has had. -/
structure Turn where
  task : Nat
  before : State
  after : State

namespace Turn

/-- How many permits it took. -/
def taken (t : Turn) : Nat := t.before.free - t.after.free

/-- How many permits it gave back. -/
def given (t : Turn) : Nat := t.after.free - t.before.free

/-- How many submissions it made. -/
def submitted (t : Turn) : Nat := t.after.calls.length - t.before.calls.length

/-- What the turns of task `i` come to together. -/
def total (f : Turn → Nat) (turns : List Turn) (i : Nat) : Nat :=
  ((turns.filter fun t => t.task = i).map f).sum

theorem total_cons_self (f : Turn → Nat) (turns : List Turn) (t : Turn) :
    total f (t :: turns) t.task = f t + total f turns t.task := by
  rw [total, List.filter_cons, if_pos (decide_eq_true rfl), List.map_cons, List.sum_cons, total]

theorem total_cons_of_ne (f : Turn → Nat) (turns : List Turn) {t : Turn} {j : Nat}
    (h : t.task ≠ j) : total f (t :: turns) j = total f turns j := by
  rw [total, List.filter_cons, if_neg (ne_true_of_eq_false (decide_eq_false h)), total]

end Turn

/-- The turns, the last one first, that lead from a state to another. -/
inductive Leads (retry : Retry) (service : Service) (start : State) : List Turn → State → Prop where
  | start : Leads retry service start [] start
  | next {turns : List Turn} {s s' : State} (i : Nat) : Leads retry service start turns s →
    s.next retry service i = some s' → Leads retry service start (⟨i, s, s'⟩ :: turns) s'

variable {retry : Retry} {service : Service} {start s s' : State} {turns : List Turn} {i : Nat}

/-- Every state that some interleaving leads to is led to by some turns. -/
theorem reachable_iff_exists_leads :
    Reachable retry service start s ↔ ∃ turns, Leads retry service start turns s := by
  constructor
  · intro h
    induction h with
    | start => exact ⟨[], .start⟩
    | next i _ hn ih =>
      obtain ⟨turns, hturns⟩ := ih
      exact ⟨_, hturns.next i hn⟩
  · rintro ⟨turns, h⟩
    induction h with
    | start => exact .start
    | next i _ hn ih => exact ih.next i hn

/-! ## Accounts -/

/-- A phase fits a task that has made so many submissions. -/
def Phase.Within (attempts made : Nat) : Phase → Prop
  | .queued => made = 0
  | .ready n => made + 1 = n ∧ n ≤ attempts
  | .calling n _ => made = n ∧ n ≤ attempts
  | .resting n => made = n ∧ n < attempts
  | .done _ => made ≤ attempts
  | .crashed => made ≤ attempts

theorem Phase.Within.le {attempts made : Nat} {p : Phase} (h : p.Within attempts made) :
    made ≤ attempts := by
  cases p with
  | queued => exact Nat.le_trans (Nat.le_of_eq h) (Nat.zero_le attempts)
  | ready n =>
    obtain ⟨hmade, hn⟩ := h
    omega
  | calling n m =>
    obtain ⟨hmade, hn⟩ := h
    omega
  | resting n =>
    obtain ⟨hmade, hn⟩ := h
    omega
  | done o => exact h
  | crashed => exact h

/-- A move fits the submissions that its task has made and may make one more. -/
theorem Move.within (h : Move retry service s i s') :
    ∃ r p q, s.tasks[i]? = some ⟨r, p⟩ ∧ s'.tasks = s.tasks.set i ⟨r, q⟩ ∧
      ∀ made, p.Within retry.attempts made →
        q.Within retry.attempts (s'.calls.length - s.calls.length + made) := by
  have hnone : ∀ made, s.calls.length - s.calls.length + made = made := by
    intro made
    omega
  cases h with
  | acquire ht hf =>
    refine ⟨_, _, _, ht, rfl, fun made hmade => ?_⟩
    show _ + 1 = 1 ∧ 1 ≤ retry.attempts
    rw [show made = 0 from hmade]
    exact ⟨congrArg (· + 1) (hnone 0), Nat.le_max_left 1 _⟩
  | @submit r n ht =>
    refine ⟨_, _, _, ht, rfl, fun made hmade => ?_⟩
    obtain ⟨hmade, hn⟩ := hmade
    show s.calls.length + 1 - s.calls.length + made = n ∧ n ≤ retry.attempts
    omega
  | settle ht hd =>
    refine ⟨_, _, _, ht, rfl, fun made hmade => ?_⟩
    exact Nat.le_trans (Nat.le_of_eq (hnone made)) hmade.le
  | @rest r n m ht hd =>
    refine ⟨_, _, _, ht, rfl, fun made hmade => ?_⟩
    -- An attempt that is to be made again is not the last one that is allowed.
    obtain ⟨-, -, -, hlt⟩ := Retry.decide_eq_again_iff.mp hd
    exact ⟨(hnone made).trans hmade.1, Nat.lt_of_lt_of_le hlt (Nat.le_max_right 1 _)⟩
  | crash ht hd =>
    refine ⟨_, _, _, ht, rfl, fun made hmade => ?_⟩
    exact Nat.le_trans (Nat.le_of_eq (hnone made)) hmade.le
  | resume ht =>
    refine ⟨_, _, _, ht, rfl, fun made hmade => ?_⟩
    exact ⟨congrArg (· + 1) ((hnone made).trans hmade.1), hmade.2⟩

/-- What the turns of a task come to, by the phase that it is in. -/
structure Account (retry : Retry) (turns : List Turn) (i : Nat) (p : Phase) : Prop where
  /-- It holds the permit that it has taken and not given back. -/
  permit : Turn.total Turn.taken turns i = Turn.total Turn.given turns i + p.hasPermit.toNat
  made : p.Within retry.attempts (Turn.total Turn.submitted turns i)

/-- A turn changes the account of its task as it changes the phase, and no other account. -/
theorem account_step (haccounts : ∀ j t, s.tasks[j]? = some t → Account retry turns j t.phase)
    (h : Move retry service s i s') :
    ∀ j t, s'.tasks[j]? = some t → Account retry (⟨i, s, s'⟩ :: turns) j t.phase := by
  obtain ⟨r, p, q, ht, hset, hwithin⟩ := h.within
  obtain ⟨r', p', q', ht', hset', hfree, -⟩ := h.effect
  intro j t hj
  by_cases hij : i = j
  · subst hij
    obtain ⟨hlt, -⟩ := List.getElem?_eq_some_iff.mp ht
    have hq : t = ⟨r, q⟩ := by
      rw [hset, List.getElem?_set_self hlt] at hj
      exact (Option.some.inj hj).symm
    have hq' : t = ⟨r', q'⟩ := by
      rw [hset', List.getElem?_set_self hlt] at hj
      exact (Option.some.inj hj).symm
    obtain ⟨hpermit, hmade⟩ := haccounts i _ ht'
    have hmade' := hwithin _ (haccounts i _ ht).made
    have hself := fun f => Turn.total_cons_self f turns ⟨i, s, s'⟩
    refine ⟨?_, ?_⟩
    · -- Of the two differences one is the change of the permit and the other is zero.
      rw [hself, hself, hq', Turn.taken, Turn.given]
      dsimp only at hpermit ⊢
      omega
    · rw [hself, hq]
      exact hmade'
  · -- Another task has neither moved nor had a turn.
    rw [hset, List.getElem?_set_ne hij] at hj
    obtain ⟨hpermit, hmade⟩ := haccounts j t hj
    have hother := fun f => Turn.total_cons_of_ne f turns (t := ⟨i, s, s'⟩) hij
    exact ⟨by rw [hother, hother, hpermit], by rw [hother]; exact hmade⟩

variable {work : List Record} {permits : Nat}

theorem Leads.account (h : Leads retry service (.start work permits) turns s) :
    ∀ j t, s.tasks[j]? = some t → Account retry turns j t.phase := by
  induction h with
  | start =>
    intro j t ht
    obtain ⟨r, -, rfl⟩ := List.mem_map.mp (List.mem_of_getElem? ht)
    exact ⟨rfl, rfl⟩
  | next i _ hn ih => exact account_step ih (State.next_eq_some_iff.mp hn)

/-! ## Going on and ending -/

/-- What cannot move has ended, or no permit is free. -/
theorem Conserved.exists_next (h : Conserved work permits s) (hpermits : 0 < permits)
    (hs : s.isComplete = false) : ∃ i s', s.next retry service i = some s' := by
  by_contra hnone
  -- Then every task has ended or waits, and the permits that they wait for are all free.
  have hstuck : ∀ t ∈ s.tasks, t.phase.isOver = true ∨ t.phase = .queued ∧ s.free = 0 := by
    intro t ht
    obtain ⟨j, hj⟩ := List.mem_iff_getElem?.mp ht
    cases hn : s.next retry service j with
    | none => exact State.next_eq_none hj hn
    | some s' => exact absurd ⟨j, s', hn⟩ hnone
  have hfree : s.free = permits := h.free_eq fun t ht => (hstuck t ht).imp_right And.left
  have hcomplete : s.isComplete = true := by
    apply List.all_eq_true.mpr
    intro t ht
    rcases hstuck t ht with hover | ⟨-, hzero⟩
    · exact hover
    · omega
  rw [hs] at hcomplete
  cases hcomplete

/-- Turns take from the effort, so that there are not more of them than it is. -/
theorem Leads.length_add_effort_le (h : Leads retry service start turns s) :
    turns.length + s.effort retry ≤ start.effort retry := by
  induction h with
  | start => exact Nat.le_of_eq (Nat.zero_add _)
  | next i _ hn ih =>
    have hless := (State.next_eq_some_iff.mp hn).effort_lt
    rw [List.length_cons]
    omega

/-- **Permits are accounted for, and the work goes on until it is done.** -/
theorem permits_accounted {c : Config} (hc : c.maxConcurrency ≤ permitLimit) (service : Service)
    (work : List Record) :
    c.permits? = some (max 1 c.maxConcurrency) ∧
    ∀ turns s, Leads c.retry service (.start work (max 1 c.maxConcurrency)) turns s →
      s.free + s.tasks.countP (fun t => t.phase.hasPermit) = max 1 c.maxConcurrency ∧
      (∀ i t, s.tasks[i]? = some t →
        (t.phase.hasPermit = true ↔ Turn.total Turn.given turns i < Turn.total Turn.taken turns i) ∧
        (t.phase.isCalling = true → t.phase.hasPermit = true) ∧
        Turn.total Turn.submitted turns i ≤ c.retry.attempts) ∧
      s.tasks.map Task.record = work ∧
      s.tasks.countP (fun t => t.phase.isCalling) ≤ max 1 c.maxConcurrency ∧
      (s.isComplete = false → ∃ i s', s.next c.retry service i = some s') ∧
      turns.length ≤ work.length * (13 * c.retry.attempts) := by
  have hlimit : max 1 c.maxConcurrency ≤ permitLimit := by
    have hone : 1 ≤ permitLimit := by decide
    omega
  refine ⟨by rw [Config.permits?, if_pos hlimit], fun turns s h => ?_⟩
  have hconserved := (reachable_iff_exists_leads.mpr ⟨turns, h⟩).conserved
  have hcalling : ∀ p : Phase, p.isCalling = true → p.hasPermit = true := by
    intro p hp
    cases p <;> first | rfl | cases hp
  -- No more tasks submit than hold a permit, and these are no more than there are permits.
  have hcount : s.tasks.countP (fun t => t.phase.isCalling) ≤
      s.tasks.countP (fun t => t.phase.hasPermit) :=
    List.countP_mono_left fun t _ ht => hcalling t.phase ht
  have hpermits := hconserved.permits
  refine ⟨hpermits, fun i t ht => ?_, hconserved.records, by omega,
    hconserved.exists_next (by omega), ?_⟩
  · obtain ⟨hpermit, hmade⟩ := h.account i t ht
    refine ⟨?_, hcalling t.phase, hmade.le⟩
    cases hhas : t.phase.hasPermit with
    | false =>
      rw [hhas, Bool.toNat_false] at hpermit
      exact iff_of_false nofun (by omega)
    | true =>
      rw [hhas, Bool.toNat_true] at hpermit
      exact iff_of_true rfl (by omega)
  · have hpos : 1 ≤ c.retry.attempts := Nat.le_max_left 1 _
    have hle := Nat.mul_le_mul_left work.length
      (show 13 * (c.retry.attempts - 1) + 10 ≤ 13 * c.retry.attempts by omega)
    have hlength := h.length_add_effort_le
    rw [State.effort_start] at hlength
    omega

/-- One permit. -/
def onePermit : Config := { Config.standard with maxConcurrency := 1 }

/-- A service at which every submission breaks down. -/
def breaking : Service := fun _ _ => ⟨0, .crashed⟩

def twoRecords : List Record := [⟨"A", .ofNat 1, 200, false⟩, ⟨"B", .ofNat 2, 200, false⟩]

/-- The task that broke down gave the permit back, and the other one goes on. -/
theorem permits_accounted_breaking :
    onePermit.maxConcurrency ≤ permitLimit ∧
    ∃ turns s, Leads onePermit.retry breaking (.start twoRecords 1) turns s ∧
      s.tasks[0]? = some ⟨⟨"A", .ofNat 1, 200, false⟩, .crashed⟩ ∧
      Turn.total Turn.taken turns 0 = 1 ∧ 1 ≤ Turn.total Turn.given turns 0 ∧
      ∃ i s', s.next onePermit.retry breaking i = some s' := by
  have hc : onePermit.maxConcurrency ≤ permitLimit := by decide
  obtain ⟨turns, s, hleads, htask, htaken, hcomplete⟩ :
      ∃ turns s, Leads onePermit.retry breaking (.start twoRecords 1) turns s ∧
        s.tasks[0]? = some ⟨⟨"A", .ofNat 1, 200, false⟩, .crashed⟩ ∧
        Turn.total Turn.taken turns 0 = 1 ∧ s.isComplete = false :=
    ⟨_, _, .next 0 (.next 0 (.next 0 .start rfl) rfl) rfl, rfl, rfl, rfl⟩
  obtain ⟨-, hall⟩ := permits_accounted hc breaking twoRecords
  obtain ⟨-, htasks, -, -, hnext, -⟩ := hall turns s hleads
  obtain ⟨hpermit, -, -⟩ := htasks 0 _ htask
  -- The task has broken with its permit, which it has given back all the same.
  have hgiven : ¬ Turn.total Turn.given turns 0 < Turn.total Turn.taken turns 0 := fun hlt =>
    nomatch hpermit.mpr hlt
  exact ⟨hc, turns, s, hleads, htask, htaken, by omega, hnext hcomplete⟩

end Rollup.Verify
