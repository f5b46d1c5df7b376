/-
Pauses between the attempts of something that fails.

The pause after the first attempt has a given length and each further one is
twice as long, up to a cap. `delay` counts the doublings in a 32-bit factor that
stays at its greatest value, and multiplies spans that stay at theirs; `doubled`
is the same pause over unbounded numbers.
-/
import Rollup.Duration

set_option autoImplicit false

namespace Rollup

/-- The lengths of the pauses between attempts. -/
structure Backoff where
  /-- The pause after the first attempt. -/
  initial : Duration
  /-- The longest pause. -/
  cap : Duration
  deriving DecidableEq

namespace Backoff

/-- How many times the first pause the one after attempt `n` lasts, as a 32-bit number. -/
def factor (n : Nat) : Nat := if 32 ≤ n - 1 then 2 ^ 32 - 1 else 2 ^ (n - 1)

/-- The pause after attempt `n`, the first attempt being number one. -/
def delay (b : Backoff) (n : Nat) : Duration := (b.initial.times (factor n)).shorter b.cap

/-- The nanoseconds of the pause after attempt `n`, doubled without a bound before the cap. -/
def doubled (b : Backoff) (n : Nat) : Nat := min (b.initial.nanos * 2 ^ (n - 1)) b.cap.nanos

end Backoff

end Rollup
