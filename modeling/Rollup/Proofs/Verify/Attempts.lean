/-
Which attempts are made for a record, and what they come to.

An answer is final if nothing is submitted after it, however many attempts are left. The attempts
of a record end with the first final answer, or with the last attempt that is allowed
(`Retry.EndsAt`). This is the attempt that is both reached and decided (`Retry.endsAt_iff`), so that
there is exactly one; a course counts up to it, has its answer as the outcome, and pauses once
behind each attempt before it (`Retry.course_submitted`).
-/
import Rollup.Proofs.Pauses
import Rollup.Proofs.Verify.Course

set_option autoImplicit false

namespace Rollup.Verify

open Contract (Record Outcome)

/-- Whether nothing is submitted after this answer: the record is accepted, the program cannot be
started, or the task breaks down. -/
def Answer.isFinal : Answer → Bool
  | .accepted => true
  | .failed (.spawn _ _) => true
  | .failed (.timeout _) => false
  | .failed (.rejected _ _) => false
  | .failed (.service _) => false
  | .crashed => true

theorem Answer.isFinal_eq_false_iff {a : Answer} :
    a.isFinal = false ↔ ∃ e, a = .failed e ∧ e.isRetryable = true := by
  cases a with
  | accepted => simp [isFinal]
  | failed e => cases e <;> simp [isFinal, Failure.isRetryable]
  | crashed => simp [isFinal]

namespace Retry

variable {retry : Retry} {r : Record} {script : Nat → Answer} {n k : Nat}

/-! ## The last attempt -/

/-- The attempts of a record end with attempt `k`: it is the first one with a final answer, or the
last one that is allowed. -/
structure EndsAt (retry : Retry) (script : Nat → Answer) (k : Nat) : Prop where
  pos : 1 ≤ k
  le : k ≤ retry.attempts
  before : ∀ i, 1 ≤ i → i < k → (script i).isFinal = false
  last : (script k).isFinal = true ∨ k = retry.attempts

/-- It makes no difference behind which attempts another one is allowed that none counts as one. -/
theorem lt_maxAttempts_iff (hn : 1 ≤ n) : n < retry.maxAttempts.toNat ↔ n < retry.attempts := by
  unfold attempts
  omega

/-- The last attempt is the one that is reached and decided. -/
theorem endsAt_iff :
    retry.EndsAt script k ↔
      Reaches retry r script k ∧ retry.decide r k (script k) ≠ .again := by
  constructor
  · rintro ⟨hpos, hle, hbefore, hlast⟩
    refine ⟨⟨hpos, fun i hi hik => ?_⟩, fun hagain => ?_⟩
    · obtain ⟨e, he, hretryable⟩ := Answer.isFinal_eq_false_iff.mp (hbefore i hi hik)
      have hlt : i < retry.maxAttempts.toNat := (lt_maxAttempts_iff hi).mpr (by omega)
      exact decide_eq_again_iff.mpr ⟨e, he, hretryable, hlt⟩
    · obtain ⟨e, he, hretryable, hlt⟩ := decide_eq_again_iff.mp hagain
      have hnot := Answer.isFinal_eq_false_iff.mpr ⟨e, he, hretryable⟩
      rcases hlast with hfinal | hk
      · rw [hnot] at hfinal
        cases hfinal
      · have hlt' := (lt_maxAttempts_iff hpos).mp hlt
        omega
  · rintro ⟨hreaches, hdecided⟩
    refine ⟨hreaches.pos, hreaches.le_attempts, fun i hi hik => ?_, ?_⟩
    · obtain ⟨e, he, hretryable, -⟩ := decide_eq_again_iff.mp (hreaches.again i hi hik)
      exact Answer.isFinal_eq_false_iff.mpr ⟨e, he, hretryable⟩
    · -- Neither final nor the last one: then it would be made again.
      by_contra hneither
      rw [not_or, Bool.not_eq_true] at hneither
      obtain ⟨e, he, hretryable⟩ := Answer.isFinal_eq_false_iff.mp hneither.1
      have hle := hreaches.le_attempts
      have hlt := (lt_maxAttempts_iff hreaches.pos).mpr (show k < retry.attempts by omega)
      exact hdecided (decide_eq_again_iff.mpr ⟨e, he, hretryable, hlt⟩)

/-- No attempts end twice. -/
theorem EndsAt.unique {j : Nat} (hj : retry.EndsAt script j) (hk : retry.EndsAt script k) :
    j = k := by
  -- The earlier one would have a final answer in front of the later one, or be the last of all.
  have hle : ∀ {a b : Nat}, retry.EndsAt script a → retry.EndsAt script b → a ≤ b := by
    intro a b ha hb
    by_contra hlt
    rcases hb.last with hfinal | hlast
    · rw [ha.before b hb.pos (by omega)] at hfinal
      cases hfinal
    · have hale := ha.le
      omega
  exact Nat.le_antisymm (hle hj hk) (hle hk hj)

/-- A failure that is not submitted again is the outcome, in the words of the failure. -/
theorem decide_failed {e : Failure} (h : retry.decide r n (.failed e) ≠ .again) :
    retry.decide r n (.failed e) = .settled (.failed r.key e.message) := by
  rw [decide] at h ⊢
  split at h
  · exact absurd rfl h
  · rw [if_neg ‹_›]

/-! ## Pauses -/

/-- There is no pause behind an attempt that is not to be made again. -/
theorem pauses_of_decided (left : Nat) (hd : retry.decide r n (script n) ≠ .again) :
    (retry.courseFrom r script left n).pauses = [] := by
  unfold courseFrom
  cases hc : retry.decide r n (script n) with
  | settled o => rfl
  | again => exact absurd hc hd
  | broken => rfl

/-- A course pauses behind each attempt before the one that decides it. The induction is on the
attempts that are left, which reach as far as that one. -/
theorem pauses_courseFrom (left k : Nat) (hk : k ≤ n) (hn : n ≤ k + left)
    (hagain : ∀ j, k ≤ j → j < n → retry.decide r j (script j) = .again)
    (hd : retry.decide r n (script n) ≠ .again) :
    (retry.courseFrom r script left k).pauses =
      (List.range' k (n - k)).map retry.backoff.delay := by
  -- The induction is on the fuel; `n` is where the course ends, and `k` comes closer to it.
  induction left generalizing k with
  | zero =>
    obtain rfl : k = n := by omega
    rw [pauses_of_decided 0 hd, Nat.sub_self]
    rfl
  | succ left ih =>
    by_cases hkn : k = n
    · subst hkn
      rw [pauses_of_decided (left + 1) hd, Nat.sub_self]
      rfl
    · have hrest := ih (k + 1) (by omega) (by omega) fun j hj => hagain j (by omega)
      have hcount : n - k = n - (k + 1) + 1 := by omega
      unfold courseFrom
      rw [hagain k (Nat.le_refl k) (by omega)]
      dsimp only
      rw [hrest, hcount, List.range'_succ, List.map_cons]

theorem pauses_course (h : retry.EndsAt script k) :
    (retry.course r script).pauses = (List.range' 1 (k - 1)).map retry.backoff.delay := by
  obtain ⟨hreaches, hdecided⟩ := endsAt_iff.mp h
  have hle := h.le
  have hpos := h.pos
  exact pauses_courseFrom (retry.attempts - 1) 1 hpos (by omega) hreaches.again hdecided

/-- No pause is longer than a minute. What a timer adds to it is less than a millisecond, and keeps
within the minute. -/
theorem nanos_delay_le (retry : Retry) (i : Nat) :
    (retry.backoff.delay i).nanos ≤ 60 * 10 ^ 9 ∧
      (retry.backoff.delay i).nanos ≤ Wait.span (retry.backoff.delay i).nanos ∧
      Wait.span (retry.backoff.delay i).nanos < (retry.backoff.delay i).nanos + 10 ^ 6 ∧
      Wait.span (retry.backoff.delay i).nanos ≤ 60 * 10 ^ 9 := by
  have hcap : (retry.backoff.delay i).nanos ≤ 60 * 10 ^ 9 := retry.backoff.delay_le_cap i
  have hlongest : 60 * 10 ^ 9 ≤ Wait.longest := by decide
  have hlasts := Wait.lasts_span (retry.backoff.delay i).nanos
  have hleast := hlasts.least
  have hclose := hlasts.close
  rw [Nat.min_eq_left (Nat.le_trans hcap hlongest)] at hleast hclose
  -- A minute is a whole number of milliseconds, so that nothing is added to it.
  have hminute : Wait.span (60 * 10 ^ 9) = 60 * 10 ^ 9 := Wait.span_of_measures (by decide)
  exact ⟨hcap, hleast, hclose, hminute ▸ Wait.span_mono hcap⟩

/-! ## Whole courses -/

/-- The course of a record whose attempts end with attempt `k`. -/
structure Submitted (retry : Retry) (r : Record) (script : Nat → Answer) (k : Nat) (c : Course) :
    Prop where
  calls : c.calls = k
  /-- The answer to attempt `k` is the outcome of the record. -/
  accepted : script k = .accepted → c.outcome = some ⟨r.address, r.sourcePath, .verified, none⟩
  failed : ∀ e, script k = .failed e →
    c.outcome = some ⟨r.address, r.sourcePath, .failed, some e.message⟩
  crashed : script k = .crashed → c.outcome = none
  /-- There is a pause after each attempt but the last, and no other one. -/
  pauses : c.pauses = (List.range' 1 (k - 1)).map retry.backoff.delay
  /-- A pause lasts a minute at most, and less than a millisecond longer than it is meant to. -/
  short : ∀ p ∈ c.pauses, p.nanos ≤ 60 * 10 ^ 9 ∧ p.nanos ≤ Wait.span p.nanos ∧
    Wait.span p.nanos < p.nanos + 10 ^ 6 ∧ Wait.span p.nanos ≤ 60 * 10 ^ 9
  /-- Every attempt that follows another one has its number in 32 bits. -/
  counted : ∀ i, 1 ≤ i → i < k → (UInt32.ofNat i + 1).toNat = i + 1

theorem attempts_lt (retry : Retry) : retry.attempts < 2 ^ 32 := by
  have h := retry.maxAttempts.toNat_lt
  unfold attempts
  omega

theorem EndsAt.counted (h : retry.EndsAt script k) {i : Nat} (hik : i < k) :
    (UInt32.ofNat i + 1).toNat = i + 1 := by
  have hle := h.le
  have hlt := retry.attempts_lt
  rw [UInt32.toNat_add, UInt32.toNat_ofNat']
  change (i % 2 ^ 32 + 1) % 2 ^ 32 = i + 1
  omega

/-- **A record is submitted up to its first final answer**, or as often as it may be, and the answer
to its last attempt is its outcome. -/
theorem course_submitted (retry : Retry) (r : Record) (script : Nat → Answer) :
    ∃ k, retry.EndsAt script k ∧ (∀ j, retry.EndsAt script j → j = k) ∧
      Submitted retry r script k (retry.course r script) := by
  obtain ⟨k, hreaches, hdecided⟩ := exists_reaches retry r script
  have hends : retry.EndsAt script k := endsAt_iff.mpr ⟨hreaches, hdecided⟩
  obtain ⟨hcalls, houtcome⟩ := course_spec hreaches hdecided
  have hpauses := pauses_course (r := r) hends
  refine ⟨k, hends, fun j hj => hj.unique hends, hcalls, ?_, ?_, ?_, hpauses, ?_, ?_⟩
  · intro haccepted
    rw [houtcome, haccepted]
    rfl
  · intro e hfailed
    rw [hfailed] at hdecided houtcome
    rw [houtcome, decide_failed hdecided]
    rfl
  · intro hcrashed
    rw [houtcome, hcrashed]
    rfl
  · -- The pauses are those of the attempts before the last one.
    intro p hp
    rw [hpauses] at hp
    obtain ⟨i, -, rfl⟩ := List.mem_map.mp hp
    exact retry.nanos_delay_le i
  · exact fun i _ hik => hends.counted hik

/-- A program that cannot be started is not started again, however many attempts are left. -/
example (r : Record) (program : String) (cause : SystemError) :
    (course ⟨0xFFFFFFFF, .ofSeconds 30⟩ r fun _ => .failed (.spawn program cause)).calls = 1 := rfl

end Retry

end Rollup.Verify
