/-
Waiting, and taking turns.

Time is counted in nanoseconds and passes only while everything waits. A timer knows
whole milliseconds only: one that is set for a part of a millisecond runs until that
millisecond is over, and none runs for more than thirty years of 365 days. A timer of
no length takes no time. What is not measured by a timer, such as the answer of
another party, is there after some whole milliseconds as well, because it is not seen
before the clock moves on; it may take longer than any timer, or never come.

Several tasks share the time by turns, and each goes on until it has to wait. So that
no task goes on for ever, a turn has room for the ends of `patience` waits only. A task
that would end one more gives way, and goes on in a turn of its own at the same moment.
-/
import Rollup.Powers

set_option autoImplicit false

namespace Rollup.Wait

/-- A millisecond. -/
def tick : Nat := 10 ^ 6

/-- The longest time of a timer. -/
def longest : Nat := 30 * 365 * 86400 * 10 ^ 9

/-- How many milliseconds a timer runs that is set for so many nanoseconds. -/
def ticks (nanos : Nat) : Nat :=
  min (nanos / tick + if nanos % tick = 0 then 0 else 1) (longest / tick)

/-- How long a timer runs that is set for so many nanoseconds. -/
def span (nanos : Nat) : Nat := tick * ticks nanos

/-! ## What is waited for -/

/-- How long something takes that is waited for. -/
inductive Delay where
  | after (millis : Nat)
  | never
  deriving DecidableEq, Repr

namespace Delay

/-- As long as a timer runs that is set for so many nanoseconds. -/
def timer (nanos : Nat) : Delay := .after (ticks nanos)

/-- Nanoseconds stand for a timer that is set for them. -/
instance : Coe Nat Delay := ⟨timer⟩

/-- The length of a delay that comes to an end. -/
def length? : Delay → Option Nat
  | .after millis => some (tick * millis)
  | .never => none

/-- The length of a delay, if it is over by the end of a time limit. -/
def within? (limit : Nat) (d : Delay) : Option Nat := d.length?.filter (· ≤ limit)

end Delay

/-! ## Turns -/

/-- How long several waits take one after the other. -/
def total (spans : List Nat) : Nat := spans.foldr (· + ·) 0

/-- How many waits may end in one turn. -/
def patience : Nat := 128

/-- Where a task stands: the time, and how many more waits may end in its turn. -/
structure Moment where
  now : Nat
  room : Nat
  deriving DecidableEq, Repr

/-- The start of the first turn. -/
def Moment.start : Moment := ⟨0, patience⟩

/-- Behind a wait. One that takes time ends in a turn of its own, and so does one for which there
was no room left. -/
def Moment.after (m : Moment) (span : Nat) : Moment :=
  ⟨m.now + span, if span = 0 ∧ 0 < m.room then m.room - 1 else patience - 1⟩

/-- Behind several waits. -/
def Moment.afterAll (m : Moment) (spans : List Nat) : Moment := spans.foldl Moment.after m

end Rollup.Wait
