/-
Up to which attempt the pauses double.

The factor that counts the doublings stays at its greatest value from attempt 33 on. A pause that
has reached the cap by then does not show it, and neither does one of no length (`KeepsUp`). Any
other one falls behind the doubling there and never gets any longer (`nanos_delay_of_not_keepsUp`).
-/
import Mathlib.Algebra.GroupWithZero.Nat
import Rollup.Chain.Retry
import Rollup.Proofs.Pauses
import Rollup.Verify.Attempts

set_option autoImplicit false

namespace Rollup

namespace Backoff

variable {b : Backoff} {n : Nat}

/-- The greatest factor times the first pause. -/
def reach (b : Backoff) : Nat := b.initial.nanos * (2 ^ 32 - 1)

/-- The doublings up to attempt `n` can be counted, or they do not matter. -/
def KeepsUp (b : Backoff) (n : Nat) : Prop := n ≤ 32 ∨ b.initial.nanos = 0 ∨ b.cap.nanos ≤ b.reach

/-- The factor is the number of the doublings as long as they can be counted. -/
theorem factor_of_le (h : n ≤ 32) : factor n = 2 ^ (n - 1) := if_neg (by omega)

theorem factor_of_lt (h : 32 < n) : factor n = 2 ^ 32 - 1 := if_pos (by omega)

theorem factor_lt (n : Nat) : factor n < 2 ^ 32 := by
  rw [factor_eq_min]
  omega

theorem nanos_delay_of_keepsUp (h : b.KeepsUp n) : (b.delay n).nanos = b.doubled n := by
  rw [nanos_delay, doubled]
  by_cases hn : n ≤ 32
  · rw [factor_of_le hn]
  · rcases h with hle | hzero | hcap
    · exact absurd hle hn
    · rw [hzero, Nat.zero_mul, Nat.zero_mul]
    · -- The cap cuts off both, as no factor is greater than the number of doublings.
      have hle : factor n ≤ 2 ^ (n - 1) := by
        rw [factor_eq_min]
        exact Nat.min_le_left _ _
      have hmul := Nat.mul_le_mul_left b.initial.nanos hle
      rw [factor_of_lt (by omega)] at hmul ⊢
      unfold reach at hcap
      omega

theorem nanos_delay_of_not_keepsUp (h : ¬ b.KeepsUp n) :
    (b.delay n).nanos = b.reach ∧ b.reach < b.doubled n := by
  simp only [KeepsUp, not_or, Nat.not_le] at h
  obtain ⟨hn, hpos, hcap⟩ := h
  have hpow : 2 ^ 32 ≤ 2 ^ (n - 1) := Nat.pow_le_pow_right (by decide) (by omega)
  have hmul : b.reach < b.initial.nanos * 2 ^ (n - 1) :=
    Nat.mul_lt_mul_of_pos_left (by omega) (Nat.pos_of_ne_zero hpos)
  rw [nanos_delay, factor_of_lt hn, doubled, ← reach]
  omega

/-- **The pause is the doubled one exactly if it keeps up with the doubling.** -/
theorem nanos_delay_eq_doubled_iff : (b.delay n).nanos = b.doubled n ↔ b.KeepsUp n := by
  refine ⟨fun heq => Classical.byContradiction fun h => ?_, nanos_delay_of_keepsUp⟩
  have hbehind := nanos_delay_of_not_keepsUp h
  omega

/-- All attempts keep up if the one with the greatest number does. -/
theorem forall_keepsUp_iff (b : Backoff) :
    (∀ n, 1 ≤ n → n < 2 ^ 32 → b.KeepsUp n) ↔ b.initial.nanos = 0 ∨ b.cap.nanos ≤ b.reach := by
  constructor
  · intro h
    rcases h 33 (by decide) (by decide) with hle | hrest
    · exact absurd hle (by decide)
    · exact hrest
  · exact fun h n _ _ => .inr h

end Backoff

/-- Between submissions the cap is reached in time by a pause of fourteen nanoseconds or more. -/
theorem Verify.Retry.keepsUp_iff (r : Verify.Retry) (n : Nat) :
    r.backoff.KeepsUp n ↔ n ≤ 32 ∨ r.pause.nanos = 0 ∨ 14 ≤ r.pause.nanos := by
  have hcap : r.backoff.cap.nanos = 60 * 10 ^ 9 := rfl
  have hreach : r.backoff.reach = r.pause.nanos * (2 ^ 32 - 1) := rfl
  have hinitial : r.backoff.initial = r.pause := rfl
  rw [Backoff.KeepsUp, hcap, hreach, hinitial]
  omega

/-- **How far the pauses double.** The pause after attempt `n` is the first one doubled `n - 1`
times, up to the cap, exactly if there are at most 32 attempts so far, or the first pause has no
length, or the greatest factor takes it to the cap. It is so after every attempt if it is after the
last one. Else the pause has come to a halt in front of the doubled one. The factor is always a
number of 32 bits, and no pause is longer than a later one. This holds for requests, and for
submissions with a cap of a minute. -/
theorem delay_doubled_exact (p : Chain.Policy) (r : Verify.Retry) (n : Nat) :
    ((p.backoff.delay n).nanos = min (p.backoff.initial.nanos * 2 ^ (n - 1)) p.backoff.cap.nanos ↔
      n ≤ 32 ∨ p.backoff.initial.nanos = 0 ∨
        p.backoff.cap.nanos ≤ p.backoff.initial.nanos * (2 ^ 32 - 1)) ∧
    ((r.backoff.delay n).nanos = min (r.pause.nanos * 2 ^ (n - 1)) (60 * 10 ^ 9) ↔
      n ≤ 32 ∨ r.pause.nanos = 0 ∨ 14 ≤ r.pause.nanos) ∧
    ∀ b : Backoff,
      ((∀ i, 1 ≤ i → i < 2 ^ 32 → (b.delay i).nanos = b.doubled i) ↔
        b.initial.nanos = 0 ∨ b.cap.nanos ≤ b.initial.nanos * (2 ^ 32 - 1)) ∧
      ((b.delay n).nanos ≠ b.doubled n →
        (b.delay n).nanos = b.initial.nanos * (2 ^ 32 - 1) ∧ (b.delay n).nanos < b.doubled n) ∧
      Backoff.factor n < 2 ^ 32 ∧ (b.delay n).nanos ≤ b.cap.nanos ∧
      ∀ i ≤ n, (b.delay i).nanos ≤ (b.delay n).nanos := by
  refine ⟨Backoff.nanos_delay_eq_doubled_iff, ?_, fun b => ⟨?_, ?_, ?_, ?_, ?_⟩⟩
  · -- The cap is a minute here, which the factor reaches from 14 nanoseconds on.
    rw [← r.keepsUp_iff, ← Backoff.nanos_delay_eq_doubled_iff]
    rfl
  · simp only [Backoff.nanos_delay_eq_doubled_iff]
    exact b.forall_keepsUp_iff
  · rw [ne_eq, Backoff.nanos_delay_eq_doubled_iff]
    intro h
    obtain ⟨heq, hlt⟩ := Backoff.nanos_delay_of_not_keepsUp h
    exact ⟨heq, heq ▸ hlt⟩
  · exact Backoff.factor_lt n
  · exact b.delay_le_cap n
  · exact fun i h => b.delay_mono h

/-- Pauses from a nanosecond on. After attempt 33 the one of a request is a nanosecond too short,
and after attempt 36 that of a submission, which has stayed the same, is not even an eighth of what
it should be. -/
theorem delay_ne_doubled_nanosecond :
    ((⟨.ofNanos 1, .ofSeconds 5⟩ : Backoff).delay 33).nanos = 4294967295 ∧
    (⟨.ofNanos 1, .ofSeconds 5⟩ : Backoff).doubled 33 = 4294967296 ∧
    ((⟨40, .ofNanos 1⟩ : Verify.Retry).backoff.delay 36).nanos = 4294967295 ∧
    (⟨40, .ofNanos 1⟩ : Verify.Retry).backoff.doubled 36 = 34359738368 := by
  decide

end Rollup
