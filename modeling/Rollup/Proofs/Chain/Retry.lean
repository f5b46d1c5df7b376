/-
What a request comes to under a policy.

An attempt has an outcome: its answer, or the deadline if that comes first. The outcome of the
first attempt that is a value or a permanent failure is the answer of the run. If there is no
such attempt, then all attempts are made and the failure of the last one is wrapped, so that no
run ends with a failure that is transient.

`Policy.Ends` describes the attempts from some number on, as `runFrom` makes them. The induction is
on the attempts that are left (`exists_ends`). `Policy.Kept` describes a whole run.
-/
import Rollup.Proofs.Pauses
import Rollup.Chain.Retry

set_option autoImplicit false

namespace Rollup.Chain

/-- Whether no attempt is made after this answer: it is a value or a failure that is not
transient. -/
def isFinal {α : Type} : Except ChainError α → Bool
  | .ok _ => true
  | .error e => !e.isTransient

/-- Only a transient failure lets another attempt follow. -/
theorem isFinal_eq_false_iff {α : Type} {answer : Except ChainError α} :
    isFinal answer = false ↔ ∃ e, answer = .error e ∧ e.isTransient = true := by
  cases answer with
  | ok value => simp [isFinal]
  | error e => simp [isFinal]

namespace Policy

variable {α : Type} (p : Policy) (method : String) (script : Nat → Attempt α)

/-! ## One attempt -/

/-- The outcome of an attempt under the deadline. One that ends at the moment of the deadline is in
time. -/
def outcome (a : Attempt α) : Except ChainError α :=
  match a.delay with
  | .after millis =>
    if 10 ^ 6 * millis ≤ p.deadline then a.answer else .error (.timeout p.timeout)
  | .never => .error (.timeout p.timeout)

/-- How long an attempt is waited for. -/
def spent (a : Attempt α) : Nat :=
  match a.delay with
  | .after millis => min (10 ^ 6 * millis) p.deadline
  | .never => p.deadline

/-- What is waited for until there is an outcome. -/
def waited (a : Attempt α) : List Nat := if a.delay = .after 0 then [] else [p.spent a]

/-- No attempt is waited for beyond the deadline. -/
theorem spent_le (a : Attempt α) : p.spent a ≤ p.deadline := by
  unfold spent
  split
  · exact Nat.min_le_right _ _
  · exact Nat.le_refl _

/-- What is waited for in an attempt takes as long as the attempt is waited for. -/
theorem sum_waited (a : Attempt α) : (p.waited a).sum = p.spent a := by
  unfold waited
  split
  next hnone => simp only [spent, hnone, Nat.mul_zero, Nat.zero_min, List.sum_nil]
  next => exact List.sum_singleton

/-- Under the deadline an attempt comes to its outcome. -/
theorem await_eq (a : Attempt α) : p.await a = (p.waited a, p.outcome a) := by
  obtain ⟨delay, answer⟩ := a
  unfold await waited outcome spent
  cases delay with
  | never => rfl
  | after millis =>
    dsimp only
    by_cases hnone : Wait.Delay.after millis = .after 0
    · -- An attempt that ends at once is in time under every deadline.
      obtain rfl : millis = 0 := Wait.Delay.after.inj hnone
      rw [if_pos rfl, if_pos rfl, if_pos (by omega)]
    · rw [if_neg hnone, if_neg hnone]
      by_cases hle : 10 ^ 6 * millis ≤ p.deadline
      · have hin : (Wait.Delay.after millis).within? p.deadline = some (10 ^ 6 * millis) :=
          Wait.Delay.within?_eq_some_iff.mpr ⟨rfl, hle⟩
        rw [hin, if_pos hle, Nat.min_eq_left hle]
      · have hout : (Wait.Delay.after millis).within? p.deadline = none := by
          rw [Wait.Delay.within?_eq_none_iff]
          intro length hlength
          obtain rfl : 10 ^ 6 * millis = length := Option.some.inj hlength
          exact Nat.lt_of_not_le hle
        rw [hout, if_neg hle, Nat.min_eq_right (Nat.le_of_not_le hle)]

/-- What is waited for from the beginning of attempt `i` to the beginning of the next one. -/
def round (i : Nat) : List Nat := p.waited (script i) ++ [p.pause i]

/-- From one attempt to the next it takes the attempt and the pause behind it. -/
theorem sum_round (i : Nat) : (p.round script i).sum = p.spent (script i) + p.pause i := by
  rw [round, List.sum_append, sum_waited, List.sum_singleton]

/-- Several attempts take the times of all of them and of the pauses behind them. -/
theorem sum_flatMap_round (rounds : List Nat) :
    (rounds.flatMap (p.round script)).sum =
      (rounds.map fun i => p.spent (script i) + p.pause i).sum := by
  induction rounds with
  | nil => rfl
  | cons i rest ih =>
    rw [List.flatMap_cons, List.sum_append, ih, sum_round, List.map_cons, List.sum_cons]

/-! ## The steps of a run -/

variable {p method script} {left n now m last : Nat} {e : ChainError} {r : Run α}

/-- An outcome that is final ends the run. -/
theorem runFrom_of_isFinal (h : isFinal (p.outcome (script n)) = true) :
    p.runFrom method script left n now = ⟨p.outcome (script n), [now], p.waited (script n)⟩ := by
  unfold runFrom
  rw [await_eq]
  cases hanswer : p.outcome (script n) with
  | ok value => rfl
  | error e =>
    rw [hanswer, isFinal] at h
    simp only [h, if_true]

/-- A transient failure of the last attempt is wrapped. -/
theorem runFrom_zero (h : p.outcome (script n) = .error e) (he : e.isTransient = true) :
    p.runFrom method script 0 n now =
      ⟨.error (.exhausted method n e), [now], p.waited (script n)⟩ := by
  unfold runFrom
  simp [await_eq, h, he]

/-- After a transient failure the run goes on with the next attempt, when the pause is over. -/
theorem runFrom_succ (h : isFinal (p.outcome (script n)) = false) :
    p.runFrom method script (left + 1) n now =
      let rest := p.runFrom method script left (n + 1) (now + (p.round script n).sum)
      ⟨rest.answer, now :: rest.starts, p.round script n ++ rest.waits⟩ := by
  obtain ⟨e, houtcome, he⟩ := isFinal_eq_false_iff.mp h
  rw [runFrom]
  simp [await_eq, houtcome, he, round, Wait.total_eq_sum]

/-- The attempts `n`, …, `n + m` of a run in which attempt `n` begins at `now` and `last` is the
last one that may be made. -/
structure Ends (p : Policy) (method : String) (script : Nat → Attempt α) (n now m last : Nat)
    (r : Run α) : Prop where
  again : ∀ i, n ≤ i → i < n + m → isFinal (p.outcome (script i)) = false
  answer : isFinal (p.outcome (script (n + m))) = true ∧ r.answer = p.outcome (script (n + m)) ∨
    n + m = last ∧ ∃ e, p.outcome (script last) = .error e ∧ e.isTransient = true ∧
      r.answer = .error (.exhausted method last e)
  starts : r.starts = (List.range (m + 1)).map fun j =>
    now + ((List.range' n j).flatMap (p.round script)).sum
  waits : r.waits = (List.range' n m).flatMap (p.round script) ++ p.waited (script (n + m))

/-- A further attempt at the beginning. -/
theorem Ends.cons (hn : isFinal (p.outcome (script n)) = false)
    (h : Ends p method script (n + 1) (now + (p.round script n).sum) m last r) :
    Ends p method script n now (m + 1) last
      ⟨r.answer, now :: r.starts, p.round script n ++ r.waits⟩ := by
  have hlast : n + (m + 1) = n + 1 + m := by omega
  refine ⟨?_, ?_, ?_, ?_⟩
  · intro i hi hlt
    by_cases hin : i = n
    · exact hin ▸ hn
    · exact h.again i (by omega) (by omega)
  · rw [hlast]
    exact h.answer
  · -- The further attempts begin later by the first round.
    rw [List.range_succ_eq_map, List.map_cons, List.map_map, h.starts]
    refine List.cons_eq_cons.mpr ⟨rfl, List.map_congr_left fun j _ => ?_⟩
    simp only [Function.comp_apply, List.range'_succ, List.flatMap_cons, List.sum_append]
    omega
  · rw [hlast, List.range'_succ, List.flatMap_cons, List.append_assoc, h.waits]

/-- **Every run ends**, after as many attempts as are left at most. -/
theorem exists_ends (p : Policy) (method : String) (script : Nat → Attempt α) (left n now : Nat) :
    ∃ m ≤ left, Ends p method script n now m (n + left)
      (p.runFrom method script left n now) := by
  -- The induction is on the attempts that are left, and each one begins the run of those behind it.
  induction left generalizing n now with
  | zero =>
    refine ⟨0, Nat.le_refl 0, ?_⟩
    cases hfinal : isFinal (p.outcome (script n)) with
    | true =>
      rw [runFrom_of_isFinal hfinal]
      exact ⟨by omega, .inl ⟨hfinal, rfl⟩, rfl, rfl⟩
    | false =>
      obtain ⟨e, houtcome, he⟩ := isFinal_eq_false_iff.mp hfinal
      rw [runFrom_zero houtcome he]
      exact ⟨by omega, .inr ⟨rfl, e, houtcome, he, rfl⟩, rfl, rfl⟩
  | succ left ih =>
    cases hfinal : isFinal (p.outcome (script n)) with
    | true =>
      refine ⟨0, Nat.zero_le _, ?_⟩
      rw [runFrom_of_isFinal hfinal]
      exact ⟨by omega, .inl ⟨hfinal, rfl⟩, rfl, rfl⟩
    | false =>
      obtain ⟨m, hm, hends⟩ := ih (n + 1) (now + (p.round script n).sum)
      refine ⟨m + 1, Nat.succ_le_succ hm, ?_⟩
      rw [runFrom_succ hfinal, show n + (left + 1) = n + 1 + left by omega]
      exact hends.cons hfinal

/-- The first final outcome is the one that the attempts end with. -/
theorem Ends.decided (h : Ends p method script n now m last r) {k : Nat} (hnk : n ≤ k)
    (hk : k ≤ last) (hfinal : isFinal (p.outcome (script k)) = true)
    (hleast : ∀ i, n ≤ i → i < k → isFinal (p.outcome (script i)) = false) :
    n + m = k ∧ r.answer = p.outcome (script k) := by
  -- What is made again is not final, so that no attempt before the last one decides.
  have hge : ¬ k < n + m := by
    intro hlt
    rw [h.again k hnk hlt] at hfinal
    cases hfinal
  rcases h.answer with ⟨hend, hanswer⟩ | ⟨hlast, e, houtcome, he, -⟩
  · have hle : ¬ n + m < k := by
      intro hlt
      rw [hleast (n + m) (by omega) hlt] at hend
      cases hend
    obtain rfl : k = n + m := by omega
    exact ⟨rfl, hanswer⟩
  · -- The attempts would all have been made, with one among them that decides.
    obtain rfl : k = last := by omega
    rw [isFinal_eq_false_iff.mpr ⟨e, houtcome, he⟩] at hfinal
    cases hfinal

/-- If no outcome is final, then all attempts are made and the last failure is wrapped. -/
theorem Ends.exhausted (h : Ends p method script n now m last r) (hm : n + m ≤ last)
    (hnone : ∀ i, n ≤ i → i ≤ last → isFinal (p.outcome (script i)) = false) :
    n + m = last ∧ ∃ e, p.outcome (script last) = .error e ∧
      r.answer = .error (.exhausted method last e) := by
  rcases h.answer with ⟨hend, -⟩ | ⟨hlast, e, houtcome, -, hanswer⟩
  · rw [hnone (n + m) (by omega) hm] at hend
    cases hend
  · exact ⟨hlast, e, houtcome, hanswer⟩

/-- What is wrapped is permanent, whatever it is. -/
theorem Ends.permanent (h : Ends p method script n now m last r) (he : r.answer = .error e) :
    e.isTransient = false := by
  rcases h.answer with ⟨hend, hanswer⟩ | ⟨-, e', -, -, hanswer⟩
  · rw [← hanswer, he] at hend
    simpa [isFinal] using hend
  · rw [he, Except.error.injEq] at hanswer
    rw [hanswer]
    rfl

/-- The number of attempts fits into 32 bits. -/
theorem attempts_lt (p : Policy) : p.attempts < 2 ^ 32 := by
  have h := p.maxAttempts.toNat_lt
  unfold attempts
  omega

/-! ## Whole runs -/

/-- No attempt is waited for beyond the deadline. -/
theorem sum_rounds_le (p : Policy) (script : Nat → Attempt α) (rounds : List Nat) :
    (rounds.flatMap (p.round script)).sum ≤
      rounds.length * p.deadline + (rounds.map p.pause).sum := by
  induction rounds with
  | nil => exact Nat.zero_le _
  | cons i rest ih =>
    have hspent := p.spent_le (script i)
    rw [List.flatMap_cons, List.sum_append, sum_round, List.map_cons, List.sum_cons,
      List.length_cons, Nat.succ_mul]
    omega

/-- A run that keeps to a policy. -/
structure Kept (p : Policy) (method : String) (script : Nat → Attempt α) (r : Run α) : Prop where
  /-- The first final outcome is the answer, and no attempt follows. -/
  decided : ∀ k, 1 ≤ k → k ≤ p.attempts → isFinal (p.outcome (script k)) = true →
    (∀ i, 1 ≤ i → i < k → isFinal (p.outcome (script i)) = false) →
    r.starts.length = k ∧ r.answer = p.outcome (script k)
  /-- If there is none, then all attempts are made and the failure of the last one is wrapped. -/
  exhausted : (∀ i, 1 ≤ i → i ≤ p.attempts → isFinal (p.outcome (script i)) = false) →
    r.starts.length = p.attempts ∧ ∃ e, p.outcome (script p.attempts) = .error e ∧
      r.answer = .error (.exhausted method p.attempts e)
  permanent : ∀ e, r.answer = .error e → e.isTransient = false
  bounded : 1 ≤ r.starts.length ∧ r.starts.length ≤ p.attempts ∧ p.attempts < 2 ^ 32
  /-- An attempt begins when those before it and the pauses after these are over. -/
  starts : r.starts = (List.range r.starts.length).map fun j =>
    ((List.range' 1 j).map fun i => p.spent (script i) + p.pause i).sum
  /-- There is a pause after each attempt but the last, and no other one. -/
  waits : r.waits = (List.range' 1 (r.starts.length - 1)).flatMap (p.round script) ++
    p.waited (script r.starts.length)
  /-- The first pause is meant to be the initial one. It is doubled from each attempt to the next as
  long as the factor has 32 bits, and no pause is meant to be longer than the cap. -/
  schedule : ∀ i, (p.backoff.delay i).nanos =
    min (p.backoff.initial.nanos * min (2 ^ (i - 1)) (2 ^ 32 - 1)) p.backoff.cap.nanos
  /-- Deadlines and pauses are as long as timers last that are set for them. -/
  timers : Wait.Lasts p.timeout.nanos p.deadline ∧
    ∀ i, Wait.Lasts (p.backoff.delay i).nanos (p.pause i)
  /-- In whole milliseconds within the longest time of a timer they are as long as they are meant
  to be. -/
  measured : (Wait.Measures p.timeout.nanos → p.deadline = p.timeout.nanos) ∧
    ∀ i, Wait.Measures (p.backoff.delay i).nanos → p.pause i = (p.backoff.delay i).nanos
  /-- Pauses do not get shorter, nor longer than a timer lasts that is set for the cap. -/
  pauses : ∀ i j, i ≤ j → p.pause i ≤ p.pause j ∧
    ∀ most, Wait.Lasts p.backoff.cap.nanos most → p.pause j ≤ most
  finish : r.finish ≤ p.attempts * p.deadline +
    ((List.range' 1 (r.starts.length - 1)).map p.pause).sum

/-- No pause is shorter than the one before it. -/
theorem pause_mono (p : Policy) {i j : Nat} (h : i ≤ j) : p.pause i ≤ p.pause j :=
  Wait.span_mono (p.backoff.delay_mono h)

/-- No pause is longer than a timer lasts that is set for the cap. -/
theorem pause_le_cap (p : Policy) (n : Nat) {most : Nat}
    (h : Wait.Lasts p.backoff.cap.nanos most) : p.pause n ≤ most := by
  rw [Wait.lasts_iff.mp h]
  exact Wait.span_mono (p.backoff.delay_le_cap n)

/-- All attempts that are made have a beginning. -/
theorem Ends.length_starts (h : Ends p method script n now m last r) :
    r.starts.length = 1 + m := by
  rw [h.starts, List.length_map, List.length_range, Nat.add_comm]

/-- A whole run makes its attempts from the first one on. -/
theorem exists_run_ends (p : Policy) (method : String) (script : Nat → Attempt α) :
    ∃ m, 1 + m ≤ p.attempts ∧ Ends p method script 1 0 m p.attempts (p.run method script) := by
  have hpos : 1 ≤ p.attempts := Nat.le_max_left 1 _
  obtain ⟨m, hm, hends⟩ := exists_ends p method script (p.attempts - 1) 1 0
  rw [show 1 + (p.attempts - 1) = p.attempts by omega] at hends
  exact ⟨m, by omega, hends⟩

/-- A run begins with an attempt, and makes no more of them than the policy has. -/
theorem starts_run (p : Policy) (method : String) (script : Nat → Attempt α) :
    0 ∈ (p.run method script).starts ∧ (p.run method script).starts.length ≤ p.attempts := by
  obtain ⟨m, hm, hends⟩ := p.exists_run_ends method script
  constructor
  · rw [hends.starts]
    exact List.mem_map.mpr ⟨0, List.mem_range.mpr (Nat.succ_pos m), rfl⟩
  · rwa [hends.length_starts]

/-- **A request keeps to its policy.** -/
theorem run_kept (p : Policy) (method : String) (script : Nat → Attempt α) :
    Kept p method script (p.run method script) := by
  obtain ⟨m, hm, hends⟩ := p.exists_run_ends method script
  -- From here on the run is known by its ends only, of which attempt `1 + m` is the last.
  generalize p.run method script = r at hends ⊢
  have hlength : r.starts.length = 1 + m := hends.length_starts
  refine ⟨?_, ?_, fun e => hends.permanent, ?_, ?_, ?_, ?_, ?_, ?_, ?_, ?_⟩
  · intro k hk hkN hfinal hleast
    obtain ⟨hm, hanswer⟩ := hends.decided hk hkN hfinal hleast
    exact ⟨hlength.trans hm, hanswer⟩
  · intro hnone
    obtain ⟨hm, hlast⟩ := hends.exhausted (by omega) hnone
    exact ⟨hlength.trans hm, hlast⟩
  · exact ⟨by omega, by omega, p.attempts_lt⟩
  · rw [hlength, Nat.add_comm, hends.starts]
    exact List.map_congr_left fun j _ => by rw [Nat.zero_add, sum_flatMap_round]
  · rw [hlength, Nat.add_sub_cancel_left, hends.waits]
  · intro i
    rw [Backoff.nanos_delay, Backoff.factor_eq_min]
  · exact ⟨Wait.lasts_span _, fun i => Wait.lasts_span _⟩
  · exact ⟨Wait.span_of_measures, fun i => Wait.span_of_measures⟩
  · exact fun i j h => ⟨p.pause_mono h, fun most => p.pause_le_cap j⟩
  · -- The last attempt and the rounds before it are at most as many as there may be attempts.
    have hspent := p.spent_le (script (1 + m))
    have hrounds := p.sum_rounds_le script (List.range' 1 m)
    rw [List.length_range'] at hrounds
    have hall := Nat.mul_le_mul_right p.deadline (show m + 1 ≤ p.attempts by omega)
    rw [Nat.succ_mul] at hall
    rw [hlength, Nat.add_sub_cancel_left, Run.finish, Wait.total_eq_sum, hends.waits,
      List.sum_append, sum_waited]
    omega

end Policy

/-! ## Pauses that no timer measures -/

/-- Two attempts, with a pause of a millisecond more than thirty years between them. -/
def Policy.patient : Policy :=
  ⟨2, ⟨.ofMillis 946080000001, .ofMillis (2 ^ 64 - 1)⟩, .ofSeconds 10⟩

/-- Two attempts of a nanosecond, with a pause of a nanosecond between them. -/
def Policy.hasty : Policy := ⟨2, ⟨.ofNanos 1, .ofNanos 1⟩, .ofNanos 1⟩

/-- An attempt that fails at once and one that succeeds at once. -/
def secondTime (n : Nat) : Attempt Nat :=
  if n = 1 then ⟨.after 0, .error (.unavailable "reset")⟩ else ⟨.after 0, .ok 1⟩

/-- An attempt that never ends. -/
def unending (_ : Nat) : Attempt Nat := ⟨.never, .ok 1⟩

/-- The long pause is over after thirty years. Each of the short times takes a millisecond, so that
the pause is longer than its cap, and the run than its attempts and the pause are meant to be. -/
theorem waits_ne_delay_patient :
    ((Policy.patient.run "m" secondTime).answer = .ok 1 ∧
      (Policy.patient.run "m" secondTime).starts = [0, 946080000000 * 10 ^ 6] ∧
      (Policy.patient.run "m" secondTime).waits ≠ [(Policy.patient.backoff.delay 1).nanos]) ∧
    ((Policy.hasty.run "m" secondTime).answer = .ok 1 ∧
      (Policy.hasty.run "m" secondTime).waits = [10 ^ 6] ∧
      (Policy.hasty.run "m" secondTime).waits ≠ [(Policy.hasty.backoff.delay 1).nanos] ∧
      Policy.hasty.backoff.cap.nanos < 10 ^ 6) ∧
    Policy.hasty.attempts * Policy.hasty.timeout.nanos + (Policy.hasty.backoff.delay 1).nanos <
      (Policy.hasty.run "m" unending).finish :=
  ⟨⟨rfl, rfl, by decide⟩, ⟨rfl, rfl, by decide, by decide⟩, by decide⟩

end Rollup.Chain
