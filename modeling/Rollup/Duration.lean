/-
Spans of time, counted in nanoseconds.

A span is at most `2 ^ 64` seconds less one nanosecond long; sums and products
that would be longer stop there. `text` writes a span in the largest of the
units `s`, `ms`, `µs` and `ns` of which it holds at least one, without trailing
zeros behind the point.
-/
import Rollup.Powers
import Rollup.Text.Numeral

set_option autoImplicit false

namespace Rollup

/-- A span of time. -/
structure Duration where
  /-- The length in nanoseconds. -/
  nanos : Nat
  /-- Whole seconds are 64-bit numbers. -/
  nanos_lt : nanos < 2 ^ 64 * 10 ^ 9
  deriving DecidableEq

namespace Duration

/-- The number of nanoseconds in a second. -/
def second : Nat := 10 ^ 9

/-- The longest span in nanoseconds. -/
def longest : Nat := 2 ^ 64 * 10 ^ 9 - 1

/-- The span of so many nanoseconds, or the longest one. -/
def ofNanos (n : Nat) : Duration := ⟨min n longest, by unfold longest; omega⟩

/-- The span of so many milliseconds, or the longest one. -/
def ofMillis (n : Nat) : Duration := ofNanos (n * 10 ^ 6)

/-- The span of so many seconds, or the longest one. -/
def ofSeconds (n : Nat) : Duration := ofNanos (n * second)

/-- No time at all. -/
def zero : Duration := ofNanos 0

instance : Inhabited Duration := ⟨zero⟩

instance : Repr Duration := ⟨fun d n => reprPrec d.nanos n⟩

/-- A multiple of a span, or the longest one. -/
def times (d : Duration) (n : Nat) : Duration := ofNanos (d.nanos * n)

/-- The shorter of two spans. -/
def shorter (a b : Duration) : Duration := if a.nanos ≤ b.nanos then a else b

/-- Whole seconds. -/
def seconds (d : Duration) : Nat := d.nanos / second

/-- Nanoseconds beyond the whole seconds. -/
def subsecond (d : Duration) : Nat := d.nanos % second

/-- Whole milliseconds. -/
def millis (d : Duration) : Nat := d.nanos / 10 ^ 6

/-- `n` units of `scale` parts each, with the parts behind a point and no trailing zeros. -/
def inUnits (n : Nat) (places : Nat) : String :=
  let parts := Text.padFront '0' places (Text.numeral 10 (n % 10 ^ places))
  let kept := (parts.reverse.dropWhile (· = '0')).reverse
  Text.decimal (n / 10 ^ places) ++
    if kept.isEmpty ∨ places = 0 then "" else "." ++ String.ofList kept

/-- A span in the largest unit that fits. -/
def text (d : Duration) : String :=
  if 10 ^ 9 ≤ d.nanos then inUnits d.nanos 9 ++ "s"
  else if 10 ^ 6 ≤ d.nanos then inUnits d.nanos 6 ++ "ms"
  else if 10 ^ 3 ≤ d.nanos then inUnits d.nanos 3 ++ "µs"
  else inUnits d.nanos 0 ++ "ns"

end Duration

end Rollup
