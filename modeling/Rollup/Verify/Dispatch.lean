/-
Submitting many records at the same time.

Each record has a task. A task waits for one of a number of permits, submits its
record, rests between attempts, and gives the permit back when its record has an
outcome or when it breaks down. `next` is what one task does when its turn comes,
so that a list of task numbers is one way in which the work can be interleaved and
`Reachable` covers all of them.

In the end every record has an outcome: a record whose task broke down, and whose
key has no outcome otherwise, failed.
-/
import Rollup.Verify.WorkList

set_option autoImplicit false

namespace Rollup.Verify

open Contract (Key Record Outcome)

/-- A submission that takes some nanoseconds. -/
structure Call where
  delay : Nat
  answer : Answer

/-- A verification service: what comes of each submission of a record. The submissions are
counted by the key of the record, from one on. -/
abbrev Service := Record → Nat → Call

/-! ## Permits -/

/-- The greatest number of permits that can be kept. -/
def permitLimit : Nat := 2 ^ 61 - 1

/-- The number of permits, unless it is beyond the limit. -/
def Config.permits? (c : Config) : Option Nat :=
  if max 1 c.maxConcurrency ≤ permitLimit then some (max 1 c.maxConcurrency) else none

/-! ## Tasks -/

/-- Where a task is. -/
inductive Phase where
  /-- It waits for a permit. -/
  | queued
  /-- It is about to make an attempt. -/
  | ready (attempt : Nat)
  /-- The attempt is under way, as a submission of that number for its key. -/
  | calling (attempt submission : Nat)
  /-- It pauses after an attempt. -/
  | resting (attempt : Nat)
  /-- Its record has an outcome. -/
  | done (o : Outcome)
  /-- It broke down. -/
  | crashed

namespace Phase

/-- Whether a task in this phase has a permit. -/
def hasPermit : Phase → Bool
  | .ready _ | .calling _ _ | .resting _ => true
  | .queued | .done _ | .crashed => false

/-- Whether a submission is under way. -/
def isCalling : Phase → Bool
  | .calling _ _ => true
  | _ => false

/-- Whether the task has ended. -/
def isOver : Phase → Bool
  | .done _ | .crashed => true
  | _ => false

end Phase

/-- A record on its way. -/
structure Task where
  record : Record
  phase : Phase

/-! ## The system -/

/-- All tasks at one moment. -/
structure State where
  tasks : List Task
  /-- How many permits are free. -/
  free : Nat
  /-- The keys of all submissions so far. -/
  calls : List Key
  /-- The outcomes so far, in the order in which the tasks ended. -/
  ended : List Outcome

namespace State

/-- All tasks wait. -/
def start (work : List Record) (permits : Nat) : State :=
  ⟨work.map (⟨·, .queued⟩), permits, [], []⟩

/-- Where a task is. -/
def phase? (s : State) (i : Nat) : Option Phase := (s.tasks[i]?).map (·.phase)

/-- Moves a task on to a phase. -/
def move (s : State) (i : Nat) (t : Task) (p : Phase) : State :=
  { s with tasks := s.tasks.set i ⟨t.record, p⟩ }

/-- Takes a permit away, or gives it back. -/
def setFree (s : State) (free : Nat) : State := { s with free := free }

/-- A task ends with an outcome and gives its permit back. -/
def settle (s : State) (i : Nat) (t : Task) (o : Outcome) : State :=
  { (s.move i t (.done o)).setFree (s.free + 1) with ended := s.ended ++ [o] }

/-- The turn of task `i`: what it does next, if it can do anything. -/
def next (retry : Retry) (service : Service) (s : State) (i : Nat) : Option State :=
  match s.tasks[i]? with
  | none => none
  | some t =>
    match t.phase with
    | .queued =>
      if s.free = 0 then none else some ((s.move i t (.ready 1)).setFree (s.free - 1))
    | .ready n =>
      let submission := s.calls.count t.record.key + 1
      some { s.move i t (.calling n submission) with calls := t.record.key :: s.calls }
    | .calling n submission =>
      match retry.decide t.record n (service t.record submission).answer with
      | .settled o => some (s.settle i t o)
      | .again => some (s.move i t (.resting n))
      | .broken => some ((s.move i t .crashed).setFree (s.free + 1))
    | .resting n => some (s.move i t (.ready (n + 1)))
    | .done _ => none
    | .crashed => none

/-- Whether all tasks have ended. -/
def isComplete (s : State) : Bool := s.tasks.all fun t => t.phase.isOver

/-- The keys of the records that no ended task has an outcome for, each one once. -/
def pending (s : State) : List Key :=
  (s.tasks.map fun t => t.record.key).eraseDups.filter fun k => k ∉ s.ended.map Outcome.key

/-- The outcomes of all records. -/
def outcomes (s : State) : List Outcome :=
  s.ended ++ s.pending.map fun k => .failed k taskFailed

end State

/-- The states that some interleaving leads to. -/
inductive Reachable (retry : Retry) (service : Service) (start : State) : State → Prop where
  | start : Reachable retry service start start
  | next {s t : State} (i : Nat) : Reachable retry service start s →
      s.next retry service i = some t → Reachable retry service start t

end Rollup.Verify
