/-
Submitting many records, moment by moment.

Time is counted in nanoseconds and stands still while any task can go on; it then
jumps to the moment at which the next submission is answered or the next pause
ends. Tasks take their turns in the order in which they were woken, and a turn lasts
until the task has to wait. A turn begins with the end of a wait, and when there is no
room for the ends of more waits in it the task gives way. Those that gave way are
called again, the last one first, when no other task is awake, and in any case after
`callAfter` turns. A permit that is given back goes to the task that has waited
longest. Every move of a task is a `State.next`, so that this is one of the
interleavings.
-/
import Rollup.Verify.Dispatch
import Rollup.Wait

set_option autoImplicit false

namespace Rollup.Verify

open Contract (Record Outcome)

/-- A submission that was made. -/
structure Submission where
  /-- When it was made. -/
  moment : Nat
  /-- Its number among the submissions of its key. -/
  number : Nat
  record : Record

/-- After how many turns the tasks that gave way are called again. -/
def callAfter : Nat := 61

/-- The tasks at a moment, with what they wait for. -/
structure Timeline where
  state : State
  now : Nat
  /-- The task whose turn it is, and how many more waits may end in the turn. -/
  current : Option (Nat × Nat)
  /-- The tasks that can go on, in the order of their turns, each with the length of a wait that it
  has yet to begin. -/
  awake : List (Nat × Nat)
  /-- The tasks that gave way, the last one first, in the same form. -/
  gaveWay : List (Nat × Nat)
  /-- How many turns began since those that gave way were last called. -/
  turns : Nat
  /-- The tasks that wait for a permit, in the order of their turns. -/
  waiting : List Nat
  /-- When sleeping tasks wake up, in the order in which they went to sleep. -/
  sleeping : List (Nat × Nat)
  /-- The submissions, the last one first. -/
  submissions : List Submission

namespace Timeline

/-- All tasks at the start. -/
def start (work : List Record) (permits now : Nat) : Timeline :=
  ⟨.start work permits, now, none, (List.range work.length).map (·, 0), [], 0, [], [], []⟩

/-- The task whose turn it is waits for some nanoseconds: it goes on if that takes no time, and
gives way if there is no room left. -/
def wait (t : Timeline) (i room delay : Nat) : Timeline :=
  match room with
  | 0 => { t with current := none, gaveWay := (i, delay) :: t.gaveWay }
  | room + 1 =>
    if delay = 0 then { t with current := some (i, room) }
    else { t with current := none, sleeping := t.sleeping ++ [(t.now + delay, i)] }

/-- Hands a permit that was given back to the task that has waited longest. -/
def handOn (retry : Retry) (service : Service) (t : Timeline) : Timeline :=
  match t.waiting with
  | [] => { t with current := none }
  | w :: waiting =>
    match t.state.next retry service w with
    | some state =>
      { t with state := state, current := none, awake := t.awake ++ [(w, 0)], waiting := waiting }
    | none => { t with current := none }

/-- The task whose turn it is makes one move. A submission that is answered at once is not waited
for. -/
def move (retry : Retry) (service : Service) (t : Timeline) (i room : Nat) : Timeline :=
  match t.state.tasks[i]?, t.state.next retry service i with
  | none, _ => { t with current := none }
  | some task, none =>
    match task.phase with
    | .queued => { t with current := none, waiting := t.waiting ++ [i] }
    | _ => { t with current := none }
  | some task, some state =>
    let t := { t with state := state }
    match task.phase, state.phase? i with
    | Phase.ready _, some (Phase.calling _ number) =>
      let made := { t with submissions := ⟨t.now, number, task.record⟩ :: t.submissions }
      let delay := Wait.span (service task.record number).delay
      if delay = 0 then made else made.wait i room delay
    | Phase.calling _ _, some (Phase.resting n) =>
      t.wait i room (Wait.span (retry.backoff.delay n).nanos)
    | Phase.calling _ _, _ => t.handOn retry service
    | _, _ => t

/-- The turn of a task begins. -/
def takeTurn (t : Timeline) (i delay : Nat) (rest : List (Nat × Nat)) : Timeline :=
  let t := { t with awake := rest, turns := t.turns + 1 }
  if delay = 0 then { t with current := some (i, Wait.patience - 1) }
  else { t with sleeping := t.sleeping ++ [(t.now + delay, i)] }

/-- Calls the tasks that gave way. -/
def call (t : Timeline) : Timeline :=
  { t with awake := t.awake ++ t.gaveWay, gaveWay := [], turns := 0 }

/-- The first moment at which a sleeping task wakes up. -/
def wakeUp? (t : Timeline) : Option Nat :=
  match t.sleeping with
  | [] => none
  | s :: rest => some (rest.foldl (fun m s => min m s.1) s.1)

/-- Jumps to a moment and wakes the tasks that sleep until then. -/
def jump (t : Timeline) (moment : Nat) : Timeline :=
  { t with
    now := moment
    awake := (t.sleeping.filter fun s => s.1 = moment).map fun s => (s.2, 0)
    turns := 0
    sleeping := t.sleeping.filter fun s => s.1 ≠ moment }

/-- One move, the beginning of a turn, a call of the tasks that gave way, or a jump in time;
nothing, if the work is done. -/
def step (retry : Retry) (service : Service) (t : Timeline) : Option Timeline :=
  match t.current, t.awake with
  | some (i, room), _ => some (t.move retry service i room)
  | none, (i, delay) :: rest =>
    if t.turns = callAfter then some t.call else some (t.takeTurn i delay rest)
  | none, [] => if t.gaveWay.isEmpty then t.wakeUp?.map t.jump else some t.call

/-- At most so many moves. -/
def run (retry : Retry) (service : Service) : Nat → Timeline → Timeline
  | 0, t => t
  | n + 1, t =>
    match t.step retry service with
    | some t => t.run retry service n
    | none => t

/-- More steps than the work can take. For each attempt these are three moves and, for its two
waits, at most two jumps and four turns, with a call before each of them at most; there is one
attempt more than are made, so that the rest is enough for the permit. -/
def enough (retry : Retry) (work : List Record) : Nat :=
  work.length * (13 * (retry.attempts + 1)) + 1

/-- The end of the work on some records that begins at a moment. -/
def finish (retry : Retry) (service : Service) (work : List Record) (permits now : Nat) :
    Timeline :=
  (start work permits now).run retry service (enough retry work)

end Timeline

end Rollup.Verify
