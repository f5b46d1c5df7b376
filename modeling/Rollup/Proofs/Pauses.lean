/-
How long pauses are, and how long several waits take together.

A pause is the first one times a factor, or the cap if that is shorter. The factor grows with
the number of the attempt, and so does the pause. It does not matter that a product stops at
the longest span, because no cap is longer than that.
-/
import Mathlib.Algebra.GroupWithZero.Nat
import Rollup.Backoff
import Rollup.Wait

set_option autoImplicit false

namespace Rollup

/-! ## Spans -/

/-- Every span is within the longest one. -/
theorem Duration.nanos_le_longest (d : Duration) : d.nanos ≤ Duration.longest := by
  have h := d.nanos_lt
  unfold Duration.longest
  omega

/-- A product stops at the longest span. -/
theorem Duration.nanos_times (d : Duration) (n : Nat) :
    (d.times n).nanos = min (d.nanos * n) Duration.longest := rfl

/-- The shorter span is the lesser number of nanoseconds. -/
theorem Duration.nanos_shorter (a b : Duration) : (a.shorter b).nanos = min a.nanos b.nanos := by
  unfold Duration.shorter
  split <;> omega

/-! ## Pauses -/

namespace Backoff

/-- The factor is a power of two until it reaches its greatest value. -/
theorem factor_eq_min (n : Nat) : factor n = min (2 ^ (n - 1)) (2 ^ 32 - 1) := by
  unfold factor
  by_cases h : 32 ≤ n - 1
  · have hpow : 2 ^ 32 ≤ 2 ^ (n - 1) := Nat.pow_le_pow_right (by decide) h
    rw [if_pos h]
    omega
  · have hpow : 2 ^ (n - 1) ≤ 2 ^ 31 := Nat.pow_le_pow_right (by decide) (by omega)
    rw [if_neg h]
    omega

/-- The factor does not get smaller. -/
theorem factor_mono {i j : Nat} (h : i ≤ j) : factor i ≤ factor j := by
  have hpow : 2 ^ (i - 1) ≤ 2 ^ (j - 1) := Nat.pow_le_pow_right (by decide) (by omega)
  rw [factor_eq_min, factor_eq_min]
  omega

/-- **A pause is the first one times its factor, or the cap if that is shorter.** -/
theorem nanos_delay (b : Backoff) (n : Nat) :
    (b.delay n).nanos = min (b.initial.nanos * factor n) b.cap.nanos := by
  have hcap := b.cap.nanos_le_longest
  rw [delay, Duration.nanos_shorter, Duration.nanos_times]
  -- A product that stops at the longest span is beyond the cap in any case.
  omega

/-- No pause is longer than the cap. -/
theorem delay_le_cap (b : Backoff) (n : Nat) : (b.delay n).nanos ≤ b.cap.nanos := by
  rw [nanos_delay]
  exact Nat.min_le_right _ _

/-- No pause is longer than a later one. -/
theorem delay_mono (b : Backoff) {i j : Nat} (h : i ≤ j) :
    (b.delay i).nanos ≤ (b.delay j).nanos := by
  have hfactor := Nat.mul_le_mul_left b.initial.nanos (factor_mono h)
  rw [nanos_delay, nanos_delay]
  omega

end Backoff

/-! ## Timers -/

namespace Wait

/-- How long a timer lasts, which knows whole milliseconds only: as long as it is set for, or until
that millisecond is over, and no longer than the longest time of a timer. -/
structure Lasts (nanos span : Nat) : Prop where
  whole : 10 ^ 6 ∣ span
  least : min nanos longest ≤ span
  close : span < min nanos longest + 10 ^ 6

/-- The length in numbers. The longest time is a whole number of milliseconds itself. -/
theorem span_eq (nanos : Nat) : span nanos = 1000000 * ((min nanos longest + 999999) / 1000000) := by
  unfold span ticks tick longest
  split <;> omega

/-- A timer runs as long as it has to. -/
theorem lasts_span (nanos : Nat) : Lasts nanos (span nanos) := by
  rw [span_eq]
  refine ⟨⟨(min nanos longest + 999999) / 1000000, rfl⟩, ?_, ?_⟩
  · omega
  · omega

/-- Between a number and the next millisecond there is one whole millisecond only. -/
theorem Lasts.unique {nanos a b : Nat} (ha : Lasts nanos a) (hb : Lasts nanos b) : a = b := by
  obtain ⟨⟨i, rfl⟩, hai, hia⟩ := ha
  obtain ⟨⟨j, rfl⟩, hbj, hjb⟩ := hb
  omega

/-- A timer has one length for what it is set for. -/
theorem lasts_iff {nanos l : Nat} : Lasts nanos l ↔ l = span nanos := by
  constructor
  · exact fun h => h.unique (lasts_span nanos)
  · rintro rfl
    exact lasts_span nanos

/-- A timer that is set for more does not run shorter. -/
theorem span_mono {m n : Nat} (h : m ≤ n) : span m ≤ span n := by
  rw [span_eq, span_eq]
  omega

/-- What a timer can be set for so that it lasts as long. -/
def Measures (nanos : Nat) : Prop := 10 ^ 6 ∣ nanos ∧ nanos ≤ longest

instance (nanos : Nat) : Decidable (Measures nanos) := inferInstanceAs (Decidable (_ ∧ _))

/-- What a timer measures is what it runs. -/
theorem span_of_measures {nanos : Nat} (h : Measures nanos) : span nanos = nanos := by
  obtain ⟨hwhole, hrange⟩ := h
  have hlasts : Lasts nanos nanos := ⟨hwhole, by omega, by omega⟩
  exact (lasts_iff.mp hlasts).symm

/-- A timer of no length does not run. -/
theorem span_zero : span 0 = 0 := span_of_measures (by decide)

theorem total_eq_sum (spans : List Nat) : total spans = spans.sum := rfl

/-! ## Delays -/

/-- A delay is over in time if it comes to an end and is not too long. -/
theorem Delay.within?_eq_some_iff {limit length : Nat} {d : Delay} :
    d.within? limit = some length ↔ d.length? = some length ∧ length ≤ limit := by
  rw [within?, Option.filter_eq_some_iff, decide_eq_true_eq]

/-- A delay is too long if it has no end or one behind the limit. -/
theorem Delay.within?_eq_none_iff {limit : Nat} {d : Delay} :
    d.within? limit = none ↔ ∀ length, d.length? = some length → limit < length := by
  rw [within?, Option.filter_eq_none_iff]
  simp only [decide_eq_true_eq, Nat.not_le]

end Wait

end Rollup
