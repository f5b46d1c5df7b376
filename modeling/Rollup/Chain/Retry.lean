/-
Requests with a deadline and a bounded number of attempts.

An attempt that takes longer than the deadline counts as a transient failure, and so
does one that never ends; one that answers at the very moment of the deadline is in
time. After a transient failure the request is repeated, after the pause of its number,
until the attempts are used up. A value or a permanent failure ends the run at once.
Deadlines and pauses are measured by timers. Time is counted in nanoseconds from the
start of the run, and nothing but waiting takes any. An attempt that answers at once is
not waited for at all.
-/
import Rollup.Backoff
import Rollup.Chain.Error
import Rollup.Text.Fields
import Rollup.Wait

set_option autoImplicit false

namespace Rollup.Chain

/-- The deadline of a request and the schedule of its attempts. -/
structure Policy where
  /-- How many attempts are made, the first one included; none counts as one. -/
  maxAttempts : UInt32
  /-- The pauses between attempts. -/
  backoff : Backoff
  /-- How long an attempt may take. -/
  timeout : Duration
  deriving DecidableEq

/-- What one attempt comes to if nobody stops waiting for it. -/
structure Attempt (α : Type) where
  delay : Wait.Delay
  answer : Except ChainError α

/-- The course of a request. -/
structure Run (α : Type) where
  answer : Except ChainError α
  /-- When each attempt began. -/
  starts : List Nat
  /-- All that was waited for, in order: answers, deadlines and pauses. -/
  waits : List Nat

/-- When a run ended. -/
def Run.finish {α : Type} (r : Run α) : Nat := Wait.total r.waits

namespace Policy

/-- Three attempts of ten seconds, with pauses from a quarter of a second to five seconds. -/
def standard : Policy := ⟨3, ⟨.ofMillis 250, .ofSeconds 5⟩, .ofSeconds 10⟩

/-- How many attempts are made at most. -/
def attempts (p : Policy) : Nat := max 1 p.maxAttempts.toNat

/-- How long an attempt is waited for at most. -/
def deadline (p : Policy) : Nat := Wait.span p.timeout.nanos

/-- How long the pause after attempt `n` lasts. -/
def pause (p : Policy) (n : Nat) : Nat := Wait.span (p.backoff.delay n).nanos

/-- What an attempt comes to under the deadline: what is waited for, and the answer. -/
def await {α : Type} (p : Policy) (a : Attempt α) : List Nat × Except ChainError α :=
  if a.delay = .after 0 then ([], a.answer)
  else match a.delay.within? p.deadline with
    | some length => ([length], a.answer)
    | none => ([p.deadline], .error (.timeout p.timeout))

/-- Makes attempt `n` at a moment, and up to `left` further ones. `script` gives each attempt by
its number. -/
def runFrom {α : Type} (p : Policy) (method : String) (script : Nat → Attempt α)
    (left n now : Nat) : Run α :=
  let (waits, answer) := p.await (script n)
  match answer with
  | .ok value => ⟨.ok value, [now], waits⟩
  | .error e =>
    -- What would fail again is not tried again, and is not said to be exhausted.
    if !e.isTransient then ⟨.error e, [now], waits⟩
    else match left with
      | 0 => ⟨.error (.exhausted method n e), [now], waits⟩
      | left + 1 =>
        let waits := waits ++ [p.pause n]
        let rest := p.runFrom method script left (n + 1) (now + Wait.total waits)
        ⟨rest.answer, now :: rest.starts, waits ++ rest.waits⟩

/-- Makes a request. `script` gives what each attempt comes to, by its number from one on. -/
def run {α : Type} (p : Policy) (method : String) (script : Nat → Attempt α) : Run α :=
  p.runFrom method script (p.attempts - 1) 1 0

/-- A policy in words. -/
def text (p : Policy) : String :=
  Text.fields "RetryPolicy" [("max_attempts", Text.decimal p.maxAttempts.toNat),
    ("initial_backoff", p.backoff.initial.text), ("max_backoff", p.backoff.cap.text),
    ("timeout", p.timeout.text)]

end Policy

end Rollup.Chain
