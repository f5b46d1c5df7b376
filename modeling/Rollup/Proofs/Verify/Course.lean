/-
The course of the submissions of one record, and where it ends.

An attempt is reached if every attempt before it was to be made again. At most one
attempt is both reached and decided, and it decides everything that a course says:
how many submissions there were, and whether the record has an outcome
(`Retry.course_spec`). The tasks that submit many records at the same
time know nothing of courses, but they do know which attempt they have reached, and
this is how the two are compared.
-/
import Mathlib.Data.Nat.Find
import Rollup.Verify.Attempts

set_option autoImplicit false

namespace Rollup.Verify

open Contract (Record Outcome)

/-- The outcome that a decision gives a record. -/
def Decision.outcome? : Decision → Option Outcome
  | .settled o => some o
  | .again => none
  | .broken => none

namespace Retry

variable {retry : Retry} {r : Record} {script : Nat → Answer} {n : Nat}

/-! ## Decisions -/

/-- A record is submitted again after a failure that may pass, while attempts are left. -/
theorem decide_eq_again_iff {a : Answer} :
    retry.decide r n a = .again ↔
      ∃ e, a = .failed e ∧ e.isRetryable = true ∧ n < retry.maxAttempts.toNat := by
  cases a with
  | accepted => simp [decide]
  | failed e =>
    by_cases h : (e.isRetryable && n < retry.maxAttempts.toNat) = true
    · simp only [decide, if_pos h, true_iff]
      rw [Bool.and_eq_true, decide_eq_true_iff] at h
      exact ⟨e, rfl, h.1, h.2⟩
    · simp only [decide, if_neg h, reduceCtorEq, false_iff, not_exists, not_and]
      rintro e' he hr hn
      cases he
      exact h (by rw [hr, decide_eq_true hn, Bool.and_self])
  | crashed => simp [decide]

/-- A failure that is not submitted again is the outcome. -/
theorem decide_settled {a : Answer} {o : Outcome} (h : retry.decide r n a = .settled o) :
    o = .verified r ∨ ∃ e : Failure, o = .failed r.key e.message := by
  cases a with
  | accepted =>
    cases h
    exact .inl rfl
  | failed e =>
    simp only [decide] at h
    split at h
    · cases h
    · cases h
      exact .inr ⟨e, rfl⟩
  | crashed => cases h

/-! ## Attempts that are reached -/

/-- Attempt `n` is made: every attempt before it was to be made again. -/
structure Reaches (retry : Retry) (r : Record) (script : Nat → Answer) (n : Nat) : Prop where
  pos : 1 ≤ n
  again : ∀ k, 1 ≤ k → k < n → retry.decide r k (script k) = .again

theorem Reaches.one : Reaches retry r script 1 := ⟨Nat.le_refl 1, fun k hk h => by omega⟩

theorem Reaches.succ (h : Reaches retry r script n)
    (ha : retry.decide r n (script n) = .again) : Reaches retry r script (n + 1) := by
  refine ⟨by omega, fun k hk hkn => ?_⟩
  by_cases hkn' : k = n
  · exact hkn' ▸ ha
  · exact h.again k hk (by omega)

/-- No more attempts are reached than are allowed, because the last allowed one is not to be made
again. -/
theorem Reaches.le_attempts (h : Reaches retry r script n) : n ≤ retry.attempts := by
  have hpos := h.pos
  unfold attempts
  by_cases h₁ : n = 1
  · omega
  · obtain ⟨-, -, -, hlt⟩ := decide_eq_again_iff.mp (h.again (n - 1) (by omega) (by omega))
    omega

/-! ## Courses -/

/-- The course from attempt `k` on is decided at the first attempt that is not to be made again.
The induction is on the attempts that are left, which reach as far as that one. -/
theorem courseFrom_spec (left k : Nat) (hk : k ≤ n) (hn : n ≤ k + left)
    (hagain : ∀ j, k ≤ j → j < n → retry.decide r j (script j) = .again)
    (hd : retry.decide r n (script n) ≠ .again) :
    (retry.courseFrom r script left k).calls = n - k + 1 ∧
    (retry.courseFrom r script left k).outcome = (retry.decide r n (script n)).outcome? := by
  -- The induction is on the fuel; `n` is where the course ends, and `k` comes closer to it.
  induction left generalizing k with
  | zero =>
    obtain rfl : k = n := by omega
    unfold courseFrom
    cases hc : retry.decide r k (script k) with
    | settled o => simp [Decision.outcome?]
    | again => exact absurd hc hd
    | broken => simp [Decision.outcome?]
  | succ left ih =>
    unfold courseFrom
    by_cases hkn : k = n
    · subst hkn
      cases hc : retry.decide r k (script k) with
      | settled o => simp [Decision.outcome?]
      | again => exact absurd hc hd
      | broken => simp [Decision.outcome?]
    · rw [hagain k (Nat.le_refl k) (by omega)]
      dsimp only
      have hrest := ih (k + 1) (by omega) (by omega) fun j hj => hagain j (by omega)
      exact ⟨by rw [hrest.1]; omega, hrest.2⟩

/-- **A course ends at the attempt that decides it.** -/
theorem course_spec (h : Reaches retry r script n)
    (hd : retry.decide r n (script n) ≠ .again) :
    (retry.course r script).calls = n ∧
    (retry.course r script).outcome = (retry.decide r n (script n)).outcome? := by
  have hle := h.le_attempts
  have hpos := h.pos
  obtain ⟨hcalls, houtcome⟩ :=
    courseFrom_spec (retry.attempts - 1) 1 hpos (by omega) h.again hd
  exact ⟨by rw [course, hcalls]; omega, houtcome⟩

/-- The outcome of a course comes from a decision. -/
theorem exists_decide_of_courseFrom {left k : Nat} {o : Outcome}
    (h : (retry.courseFrom r script left k).outcome = some o) :
    ∃ n, retry.decide r n (script n) = .settled o := by
  induction left generalizing k with
  | zero =>
    unfold courseFrom at h
    cases hd : retry.decide r k (script k) with
    | settled o' =>
      simp only [hd, Option.some.injEq] at h
      exact ⟨k, h ▸ hd⟩
    | again => simp [hd] at h
    | broken => simp [hd] at h
  | succ left ih =>
    unfold courseFrom at h
    cases hd : retry.decide r k (script k) with
    | settled o' =>
      simp only [hd, Option.some.injEq] at h
      exact ⟨k, h ▸ hd⟩
    | again =>
      simp only [hd] at h
      -- The attempt is made again, so the outcome is that of a later one.
      exact ih h
    | broken => simp [hd] at h

/-- A record is verified, or fails with the words of a failure. -/
theorem outcome_course {o : Outcome} (h : (retry.course r script).outcome = some o) :
    o = .verified r ∨ ∃ e : Failure, o = .failed r.key e.message := by
  obtain ⟨n, hd⟩ := exists_decide_of_courseFrom h
  exact decide_settled hd

/-- The outcome of a course is one of its record. -/
theorem key_outcome_course {o : Outcome} (h : (retry.course r script).outcome = some o) :
    o.key = r.key := by
  rcases outcome_course h with rfl | ⟨e, rfl⟩
  · rfl
  · rfl

/-- Some attempt is reached and decides the course, at the latest the last one. -/
theorem exists_reaches (retry : Retry) (r : Record) (script : Nat → Answer) :
    ∃ n, Reaches retry r script n ∧ retry.decide r n (script n) ≠ .again := by
  classical
  have hlast : ∃ n, 1 ≤ n ∧ retry.decide r n (script n) ≠ .again := by
    refine ⟨retry.attempts, Nat.le_max_left 1 _, fun hagain => ?_⟩
    obtain ⟨-, -, -, hlt⟩ := decide_eq_again_iff.mp hagain
    exact absurd hlt (Nat.not_lt.mpr (Nat.le_max_right 1 _))
  -- The first attempt that is not to be made again is reached, by the ones before it.
  refine ⟨Nat.find hlast, ⟨(Nat.find_spec hlast).1, fun k hk hlt => ?_⟩, (Nat.find_spec hlast).2⟩
  by_contra hne
  exact Nat.find_min hlast hlt ⟨hk, hne⟩

theorem key_settle : ((retry.course r script).settle r).key = r.key := by
  unfold Course.settle
  cases h : (retry.course r script).outcome with
  | none => rfl
  | some o => exact key_outcome_course h

end Retry

/-! ## What is said of a record without an outcome -/

/-- Texts that begin differently are different, whatever follows. -/
theorem append_ne_of_take_ne {a b t : String} (k : Nat) (hk : k ≤ a.toList.length)
    (h : a.toList.take k ≠ t.toList.take k) : a ++ b ≠ t := by
  rintro rfl
  rw [String.toList_append, List.take_append_of_le_length hk] at h
  exact h rfl

/-- No failure is told in these words, so that they always mean that a task broke down. The texts of
failures differ from them within the first fifteen letters. -/
theorem Failure.message_ne_taskFailed (e : Failure) : e.message ≠ taskFailed := by
  -- Every message differs from the other one within its first words already.
  cases e with
  | spawn program cause =>
    change "failed to run \x60" ++ program ++ "\x60: " ++ cause.message ≠ taskFailed
    rw [String.append_assoc, String.append_assoc]
    exact append_ne_of_take_ne 1 (by decide) (by decide)
  | timeout limit =>
    change "verification timed out after " ++ limit.text ≠ taskFailed
    exact append_ne_of_take_ne 15 (by decide) (by decide)
  | rejected status output =>
    change "verifier exited with " ++ statusText status ++ ": " ++ output ≠ taskFailed
    rw [String.append_assoc, String.append_assoc]
    exact append_ne_of_take_ne 7 (by decide) (by decide)
  | service text =>
    change "verification service error: " ++ text ≠ taskFailed
    exact append_ne_of_take_ne 14 (by decide) (by decide)

/-- A record gets these words exactly if it has no outcome of its own. -/
theorem Retry.settle_eq_taskFailed_iff {retry : Retry} {r : Record} {script : Nat → Answer} :
    (retry.course r script).settle r = .failed r.key taskFailed ↔
      (retry.course r script).outcome = none := by
  unfold Course.settle
  cases h : (retry.course r script).outcome with
  | none => simp
  | some o =>
    simp only [Option.getD_some, reduceCtorEq, iff_false]
    rcases outcome_course h with rfl | ⟨e, rfl⟩
    · simp [Outcome.verified, Outcome.failed]
    · intro he
      exact e.message_ne_taskFailed (Option.some.inj (congrArg Outcome.reason he))

end Rollup.Verify
