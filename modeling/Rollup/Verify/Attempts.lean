/-
Submitting one record, and submitting it again.

A record is submitted until it is accepted, until a failure that will not pass, or
until the attempts are used up; the last failure is its outcome then. Between two
attempts there is a pause. A submission may also break down, and then the record
has no outcome of its own.
-/
import Rollup.Backoff
import Rollup.Contract.Outcome
import Rollup.Text.Fields
import Rollup.Verify.Failure

set_option autoImplicit false

namespace Rollup.Verify

open Contract (Record Outcome)

/-- How often a record is submitted. -/
structure Retry where
  /-- How many attempts are made, the first one included; none counts as one. -/
  maxAttempts : UInt32
  /-- The pause after the first attempt. -/
  pause : Duration
  deriving DecidableEq

namespace Retry

/-- The longest pause. -/
def longestPause : Duration := .ofSeconds 60

/-- One attempt. -/
def once : Retry := ⟨1, .zero⟩

/-- The pauses between attempts. -/
def backoff (r : Retry) : Backoff := ⟨r.pause, longestPause⟩

/-- How many attempts are made at most. -/
def attempts (r : Retry) : Nat := max 1 r.maxAttempts.toNat

/-- A schedule in words. -/
def text (r : Retry) : String :=
  Text.fields "DispatchRetry" [("max_attempts", Text.decimal r.maxAttempts.toNat),
    ("backoff", r.pause.text)]

end Retry

/-- What a submission comes to. -/
inductive Answer where
  | accepted
  | failed (cause : Failure)
  /-- The task that submits breaks down. -/
  | crashed

/-- What happens to a record after an answer to attempt `n`. -/
inductive Decision where
  /-- It has an outcome. -/
  | settled (o : Outcome)
  /-- It is submitted again. -/
  | again
  /-- It has no outcome. -/
  | broken

/-- Decides on the answer to attempt `n`. -/
def Retry.decide (r : Retry) (record : Record) (n : Nat) : Answer → Decision
  | .accepted => .settled (.verified record)
  | .failed e =>
    if e.isRetryable && n < r.maxAttempts.toNat then .again
    else .settled (.failed record.key e.message)
  | .crashed => .broken

/-- The course of the submissions of a record. -/
structure Course where
  /-- How many submissions there were. -/
  calls : Nat
  /-- The pauses between them. -/
  pauses : List Duration
  /-- The outcome, unless a submission broke down. -/
  outcome : Option Outcome

/-- Makes attempt `n` and up to `left` further ones. The last attempt that is left is never
followed by a decision to submit again, so that the record has an outcome unless it broke down. -/
def Retry.courseFrom (r : Retry) (record : Record) (script : Nat → Answer) (left n : Nat) :
    Course :=
  match r.decide record n (script n), left with
  | .settled o, _ => ⟨1, [], some o⟩
  | .broken, _ => ⟨1, [], none⟩
  | .again, 0 => ⟨1, [], none⟩
  | .again, left + 1 =>
    let rest := r.courseFrom record script left (n + 1)
    ⟨rest.calls + 1, r.backoff.delay n :: rest.pauses, rest.outcome⟩

/-- The course of a record. `script` gives the answer to each attempt, by its number from one
on. -/
def Retry.course (r : Retry) (record : Record) (script : Nat → Answer) : Course :=
  r.courseFrom record script (r.attempts - 1) 1

/-- What is said of a record that has no outcome of its own. -/
def taskFailed : String := "verification task failed"

/-- The outcome that a record gets in the end. -/
def Course.settle (c : Course) (record : Record) : Outcome :=
  c.outcome.getD (.failed record.key taskFailed)

end Rollup.Verify
