/-
The simulated scheduler: it follows one interleaving, and it follows it to the end.

A timeline keeps every task that has not ended in exactly one place: it has the turn, it is
awake, it gave way, it sleeps, or it waits for a permit. `Placed` says so. `Sound` adds that
tasks wait for permits only while none is free, which does not hold between giving a permit
back and handing it on. What the task that has the turn can do is said once (`Moves`), and so
is what a step can be (`Steps`). Each step keeps this and takes something of the effort away,
where the turns and the waits that the scheduler adds are paid by the moves that lead to them
(`Sound.step`). So the fuel of `finish` suffices, and what it leads to is complete
(`finish_sound`).
-/
import Rollup.Proofs.Verify.Collection
import Rollup.Proofs.Verify.Progress
import Rollup.Verify.Run

set_option autoImplicit false

namespace Rollup.Verify

open Contract (Key Record Outcome)

namespace Timeline

/-! ## Places -/

/-- Where the tasks are that have not ended. -/
def places (t : Timeline) : List Nat :=
  t.current.toList.map Prod.fst ++ t.awake.map Prod.fst ++ t.gaveWay.map Prod.fst ++
    t.sleeping.map Prod.snd ++ t.waiting

/-- Every task that has not ended is in one place. -/
structure Placed (retry : Retry) (service : Service) (s₀ : State) (t : Timeline) : Prop where
  /-- Some interleaving leads here. -/
  reachable : Reachable retry service s₀ t.state
  unfinished : ∀ (j : Nat) (task : Task), t.state.tasks[j]? = some task →
    task.phase.isOver = false → j ∈ t.places
  nodup : t.places.Nodup
  /-- Only tasks without a permit wait for one. -/
  queued : ∀ w ∈ t.waiting, t.state.phase? w = some .queued
  /-- A task that has the turn or gave way has begun a turn since the last call. -/
  turned : t.current ≠ none ∨ t.gaveWay ≠ [] → t.turns ≠ 0

/-- Every task that has not ended is in one place, and tasks wait only while no permit is free. -/
structure Sound (retry : Retry) (service : Service) (s₀ : State) (t : Timeline) : Prop extends
    Placed retry service s₀ t where
  full : t.waiting ≠ [] → t.state.free = 0

variable {retry : Retry} {service : Service} {s₀ : State} {t t' : Timeline} {i room : Nat}

/-- Tasks may change their places, and those that have ended may leave. -/
theorem Placed.rearrange (h : Placed retry service s₀ t) (gone : List Nat)
    (hstate : t'.state = t.state) (hplaces : t.places.Perm (gone ++ t'.places))
    (hgone : ∀ j ∈ gone, ∀ task, t.state.tasks[j]? = some task → task.phase.isOver = true)
    (hqueued : ∀ w ∈ t'.waiting, t.state.phase? w = some .queued)
    (hturned : t'.current ≠ none ∨ t'.gaveWay ≠ [] → t'.turns ≠ 0) :
    Placed retry service s₀ t' := by
  refine ⟨hstate ▸ h.reachable, ?_, ?_, ?_, hturned⟩
  · intro j task hj hover
    rw [hstate] at hj
    rcases List.mem_append.mp (hplaces.mem_iff.mp (h.unfinished j task hj hover)) with hgo | hstay
    · rw [hgone j hgo task hj] at hover
      cases hover
    · exact hstay
  · exact (List.nodup_append.mp (hplaces.nodup_iff.mp h.nodup)).2.1
  · rw [hstate]
    exact hqueued

/-- In a turn, turns have been counted. -/
theorem Placed.turns_ne_zero (h : Placed retry service s₀ t) (hi : t.current = some (i, room)) :
    t.turns ≠ 0 := by
  refine h.turned (.inl ?_)
  rw [hi]
  exact Option.some_ne_none _

/-- A task that has ended, or that there is not, may give up its turn. -/
theorem Placed.leave (h : Placed retry service s₀ t) (hi : t.current = some (i, room))
    (hover : ∀ task, t.state.tasks[i]? = some task → task.phase.isOver = true) :
    Placed retry service s₀ { t with current := none } := by
  refine h.rearrange [i] rfl ?_ ?_ h.queued fun _ => h.turns_ne_zero hi
  · simp [places, hi]
  · exact fun j hj => List.mem_singleton.mp hj ▸ hover

/-- A task may move if it does not wait for a permit. -/
theorem Placed.moved (h : Placed retry service s₀ t) {s' : State} (hi : i ∈ t.places)
    (hwait : i ∉ t.waiting) (hmove : t.state.next retry service i = some s') :
    Placed retry service s₀ { t with state := s' } := by
  obtain ⟨r, p, q, hti, hset, -⟩ := (State.next_eq_some_iff.mp hmove).effect
  refine ⟨h.reachable.next i hmove, ?_, h.nodup, ?_, h.turned⟩
  · intro j task hj hover
    by_cases hij : i = j
    · -- The task that moved has kept its place.
      exact hij ▸ hi
    · change s'.tasks[j]? = some task at hj
      rw [hset, List.getElem?_set_ne hij] at hj
      exact h.unfinished j task hj hover
  · intro w hw
    -- What waits for a permit did not move, and is queued as before.
    have hiw : i ≠ w := fun hiw => hwait (hiw ▸ hw)
    rw [State.phase?, hset, List.getElem?_set_ne hiw]
    exact h.queued w hw

/-! ## Effort -/

/-- What the turn of a task that is awake or gave way takes. -/
def turnEffort (turn : Nat × Nat) : Nat := if turn.2 = 0 then 3 else 6

/-- What the turns and the waits take that have begun or are due. -/
def overhead (t : Timeline) : Nat :=
  (t.awake.map turnEffort).sum + (t.gaveWay.map turnEffort).sum + 4 * t.sleeping.length +
    t.current.toList.length + min 1 t.turns

/-- What is left to do, turns and waits included. -/
def effort (retry : Retry) (t : Timeline) : Nat := t.state.effort retry + t.overhead

theorem turnEffort_le (turn : Nat × Nat) : turnEffort turn ≤ 6 := by
  unfold turnEffort
  split <;> omega

/-! ## What a move can be -/

/-- Task `i` makes an attempt, which is submission `m` of its record. -/
def note (t : Timeline) (i : Nat) (r : Record) (n m : Nat) : Timeline :=
  { t with
    state := { t.state.move i ⟨r, .ready n⟩ (.calling n m) with calls := r.key :: t.state.calls }
    submissions := ⟨t.now, m, r⟩ :: t.submissions }

/-- What the task whose turn it is can do. -/
inductive Moves (retry : Retry) (service : Service) (t : Timeline) (i room : Nat) :
    Timeline → Prop where
  /-- A task that has ended, or that there is not, gives up its turn. -/
  | leave : (∀ task, t.state.tasks[i]? = some task → task.phase.isOver = true) →
    Moves retry service t i room { t with current := none }
  /-- It queues for a permit. -/
  | queue : t.state.phase? i = some .queued → t.state.free = 0 →
    Moves retry service t i room { t with current := none, waiting := t.waiting ++ [i] }
  | acquire {r : Record} : t.state.tasks[i]? = some ⟨r, .queued⟩ → t.state.free ≠ 0 →
    Moves retry service t i room
      { t with state := (t.state.move i ⟨r, .queued⟩ (.ready 1)).setFree (t.state.free - 1) }
  /-- It submits its record, and waits for the answer unless that comes at once. -/
  | submit {r : Record} {n m : Nat} : t.state.tasks[i]? = some ⟨r, .ready n⟩ →
    m = t.state.calls.count r.key + 1 →
    Moves retry service t i room
      (if Wait.span (service r m).delay = 0 then t.note i r n m
        else (t.note i r n m).wait i room (Wait.span (service r m).delay))
  /-- It pauses. -/
  | rest {r : Record} {n m : Nat} : t.state.tasks[i]? = some ⟨r, .calling n m⟩ →
    retry.decide r n (service r m).answer = .again →
    Moves retry service t i room
      ({ t with state := t.state.move i ⟨r, .calling n m⟩ (.resting n) }.wait i room
        (Wait.span (retry.backoff.delay n).nanos))
  /-- It ends, with an outcome or without one, and gives its permit back. -/
  | finish {r : Record} {q : Phase} {s' : State} : Move retry service t.state i s' →
    s'.tasks[i]? = some ⟨r, q⟩ → q.isOver = true → s'.free = t.state.free + 1 →
    s'.calls = t.state.calls →
    Moves retry service t i room ({ t with state := s' }.handOn retry service)
  | resume {r : Record} {n : Nat} : t.state.tasks[i]? = some ⟨r, .resting n⟩ →
    Moves retry service t i room
      { t with state := t.state.move i ⟨r, .resting n⟩ (.ready (n + 1)) }

/-- A task that ends hands its permit on. -/
theorem moves_end {r : Record} {n m : Nat} {q : Phase} {s' : State}
    (ht : t.state.tasks[i]? = some ⟨r, .calling n m⟩) (hm : Move retry service t.state i s')
    (htasks : s'.tasks = t.state.tasks.set i ⟨r, q⟩) (hq : q.isOver = true)
    (hfree : s'.free = t.state.free + 1) (hcalls : s'.calls = t.state.calls) (room : Nat) :
    Moves retry service t i room (t.move retry service i room) := by
  have hnext := State.next_eq_some_iff.mpr hm
  have hself : s'.tasks[i]? = some ⟨r, q⟩ := by
    rw [htasks, List.getElem?_set_self (List.getElem?_eq_some_iff.mp ht).1]
  have hphase : s'.phase? i = some q := by rw [State.phase?, hself, Option.map_some]
  have heq : t.move retry service i room = { t with state := s' }.handOn retry service := by
    cases q <;> simp_all [Timeline.move, Phase.isOver]
  rw [heq]
  exact .finish hm hself hq hfree hcalls

/-- A task that can move does so. -/
theorem moves_go {s' : State} (hm : Move retry service t.state i s') (room : Nat) :
    Moves retry service t i room (t.move retry service i room) := by
  have hnext := State.next_eq_some_iff.mpr hm
  cases hm with
  | @acquire r ht hf =>
    have heq : t.move retry service i room =
        { t with
          state := (t.state.move i ⟨r, .queued⟩ (.ready 1)).setFree (t.state.free - 1) } := by
      simp [Timeline.move, ht, hnext]
    rw [heq]
    exact .acquire ht hf
  | @submit r n ht =>
    -- The number of the call gets a name, so that it stays what it was when the call is counted.
    obtain ⟨m, hm⟩ : ∃ m, m = t.state.calls.count r.key + 1 := ⟨_, rfl⟩
    rw [← hm] at hnext
    have hphase : State.phase? { t.state.move i ⟨r, .ready n⟩ (.calling n m) with
        calls := r.key :: t.state.calls } i = some (.calling n m) := State.phase?_move ht _
    have heq : t.move retry service i room =
        if Wait.span (service r m).delay = 0 then t.note i r n m
        else (t.note i r n m).wait i room (Wait.span (service r m).delay) := by
      simp [Timeline.move, ht, hnext, hphase, note]
    rw [heq]
    exact .submit ht hm
  | settle ht hd => exact moves_end ht (.settle ht hd) rfl rfl rfl rfl room
  | @rest r n m ht hd =>
    have hphase := State.phase?_move ht (.resting n)
    have heq : t.move retry service i room =
        { t with state := t.state.move i ⟨r, .calling n m⟩ (.resting n) }.wait i room
          (Wait.span (retry.backoff.delay n).nanos) := by
      simp [Timeline.move, ht, hnext, hphase]
    rw [heq]
    exact .rest ht hd
  | crash ht hd => exact moves_end ht (.crash ht hd) rfl rfl rfl rfl room
  | @resume r n ht =>
    have heq : t.move retry service i room =
        { t with state := t.state.move i ⟨r, .resting n⟩ (.ready (n + 1)) } := by
      simp [Timeline.move, ht, hnext]
    rw [heq]
    exact .resume ht

theorem moves_move (retry : Retry) (service : Service) (t : Timeline) (i room : Nat) :
    Moves retry service t i room (t.move retry service i room) := by
  cases ht : t.state.tasks[i]? with
  | none =>
    have heq : t.move retry service i room = { t with current := none } := by simp [move, ht]
    rw [heq]
    exact .leave fun task hjt => by rw [ht] at hjt; cases hjt
  | some task =>
    cases hnext : t.state.next retry service i with
    | none =>
      -- The task does not go on: it is over, or it has to wait for a permit.
      rcases State.next_eq_none ht hnext with hover | ⟨hqueued, hfree⟩
      · have heq : t.move retry service i room = { t with current := none } := by
          cases hp : task.phase <;> simp_all [move, Phase.isOver]
        rw [heq]
        refine .leave fun task' hjt => ?_
        rw [ht] at hjt
        cases hjt
        exact hover
      · have heq : t.move retry service i room =
            { t with current := none, waiting := t.waiting ++ [i] } := by
          simp [move, ht, hnext, hqueued]
        rw [heq]
        exact .queue (by rw [State.phase?, ht, Option.map_some, hqueued]) hfree
    | some s' => exact moves_go (State.next_eq_some_iff.mp hnext) room

/-! ## Steps -/

/-- Ending or beginning a wait leaves every task in its place, and adds no more than a submission
or a pause takes away. -/
theorem wait_sound (h : Sound retry service s₀ t) (hi : t.current = some (i, room))
    (left delay : Nat) :
    Sound retry service s₀ (t.wait i left delay) ∧
      (t.wait i left delay).effort retry ≤ t.effort retry + 5 := by
  have hturned := h.turns_ne_zero hi
  cases left with
  | zero =>
    -- No room is left: the task gives way, and its next turn takes up to six.
    refine ⟨⟨h.rearrange [] rfl ?_ nofun h.queued fun _ => hturned, h.full⟩, ?_⟩
    · refine List.perm_iff_count.mpr fun j => ?_
      simp only [wait, places, hi, Option.toList_some, Option.toList_none, List.map_cons,
        List.map_nil, List.nil_append, List.count_append, List.count_cons, List.count_nil]
      omega
    · have hle := turnEffort_le (i, delay)
      simp only [wait, effort, overhead, hi, Option.toList_some, Option.toList_none, List.map_cons,
        List.sum_cons, List.length_cons, List.length_nil]
      omega
  | succ left =>
    rw [wait]
    by_cases hdelay : delay = 0
    · rw [if_pos hdelay]
      refine ⟨⟨h.rearrange [] rfl ?_ nofun h.queued fun _ => hturned, h.full⟩, ?_⟩
      · simp [places, hi]
      · simp [effort, overhead, hi]
    · rw [if_neg hdelay]
      refine ⟨⟨h.rearrange [] rfl ?_ nofun h.queued fun _ => hturned, h.full⟩, ?_⟩
      · refine List.perm_iff_count.mpr fun j => ?_
        simp only [places, hi, Option.toList_some, Option.toList_none, List.map_cons, List.map_nil,
          List.map_append, List.count_append, List.count_cons, List.count_nil]
        omega
      · simp only [effort, overhead, hi, Option.toList_some, Option.toList_none, List.length_append,
          List.length_cons, List.length_nil]
        omega

/-- A task that has ended gives its permit to the task that has waited longest, whose move pays for
its next turn. Before that, one permit is free although tasks wait. -/
theorem handOn_sound (h : Placed retry service s₀ t) (hi : t.current = some (i, room))
    (hover : ∀ task, t.state.tasks[i]? = some task → task.phase.isOver = true)
    (hfree : t.waiting ≠ [] → t.state.free = 1) :
    Sound retry service s₀ (t.handOn retry service) ∧
      (t.handOn retry service).effort retry < t.effort retry := by
  have hturned := h.turns_ne_zero hi
  cases hw : t.waiting with
  | nil =>
    have heq : t.handOn retry service = { t with current := none } := by simp [handOn, hw]
    rw [heq]
    refine ⟨⟨h.leave hi hover, ?_⟩, ?_⟩
    · exact fun hne => absurd hw hne
    · simp [effort, overhead, hi]
  | cons w waiting =>
    obtain ⟨⟨r, p⟩, htw, hp⟩ : ∃ task, t.state.tasks[w]? = some task ∧ task.phase = .queued := by
      have hqueued := h.queued w (by rw [hw]; exact List.mem_cons_self)
      exact Option.map_eq_some_iff.mp hqueued
    obtain rfl : p = .queued := hp
    have hone : t.state.free = 1 := hfree (by rw [hw]; exact List.cons_ne_nil w waiting)
    have hmove : Move retry service t.state w _ :=
      .acquire htw (by rw [hone]; exact Nat.one_ne_zero)
    have hnext := State.next_eq_some_iff.mpr hmove
    -- The task leaves the queue first and moves then, because no task moves that waits.
    have hplaced : Placed retry service s₀
        { t with current := none, awake := t.awake ++ [(w, 0)], waiting := waiting } := by
      refine (h.leave hi hover).rearrange [] rfl ?_ nofun ?_ fun _ => hturned
      · refine List.perm_iff_count.mpr fun j => ?_
        simp only [places, hw, Option.toList_none, List.map_cons, List.map_nil, List.map_append,
          List.nil_append, List.count_append, List.count_cons, List.count_nil]
        omega
      · intro v hv
        exact h.queued v (by rw [hw]; exact List.mem_cons_of_mem w hv)
    have hnotin : w ∉ waiting := by
      have hnodup := (List.nodup_append.mp h.nodup).2.1
      rw [hw] at hnodup
      exact (List.nodup_cons.mp hnodup).1
    have heq : t.handOn retry service =
        { t with
          state := (t.state.move w ⟨r, .queued⟩ (.ready 1)).setFree (t.state.free - 1)
          current := none
          awake := t.awake ++ [(w, 0)]
          waiting := waiting } := by
      simp [handOn, hw, hnext]
    rw [heq]
    refine ⟨⟨hplaced.moved ?_ hnotin hnext, ?_⟩, ?_⟩
    · simp [places]
    · intro _
      simp [State.setFree, hone]
    · have hacquire := State.effort_acquire retry (t.state.free - 1) htw
      simp only [effort, overhead, hi, turnEffort, if_true, Option.toList_some, Option.toList_none,
        List.map_append, List.map_cons, List.map_nil, List.sum_append, List.sum_cons, List.sum_nil,
        List.length_cons, List.length_nil]
      omega

theorem leave_sound (h : Sound retry service s₀ t) (hi : t.current = some (i, room))
    (hover : ∀ task, t.state.tasks[i]? = some task → task.phase.isOver = true) :
    Sound retry service s₀ { t with current := none } ∧
      { t with current := none }.effort retry < t.effort retry := by
  refine ⟨⟨h.leave hi hover, h.full⟩, ?_⟩
  simp [effort, overhead, hi]

/-- A task without a permit queues for one. -/
theorem queue_sound (h : Sound retry service s₀ t) (hi : t.current = some (i, room))
    (hqueued : t.state.phase? i = some .queued) (hfree : t.state.free = 0) :
    Sound retry service s₀ { t with current := none, waiting := t.waiting ++ [i] } ∧
      { t with current := none, waiting := t.waiting ++ [i] }.effort retry < t.effort retry := by
  have hturned := h.turns_ne_zero hi
  refine ⟨⟨h.rearrange [] rfl ?_ nofun ?_ fun _ => hturned, fun _ => hfree⟩, ?_⟩
  · -- The task has gone from the running place to the waiting ones, so the places are the same.
    refine List.perm_iff_count.mpr fun j => ?_
    simp only [places, hi, Option.toList_some, Option.toList_none, List.map_cons, List.map_nil,
      List.count_append, List.count_cons, List.count_nil]
    omega
  · intro w hw
    rcases List.mem_append.mp hw with hw | hw
    · exact h.queued w hw
    · rw [List.mem_singleton.mp hw]
      exact hqueued
  · simp [effort, overhead, hi]

/-- The task that has the turn may move: it does not wait as well, since it is in one place only. -/
theorem Placed.moved_current (h : Placed retry service s₀ t) (hi : t.current = some (i, room))
    {s' : State} (hm : Move retry service t.state i s') :
    Placed retry service s₀ { t with state := s' } := by
  have hwait : i ∉ t.waiting := by
    have hnodup := h.nodup
    simp only [places, hi, Option.toList_some, List.map_cons, List.cons_append,
      List.nodup_cons] at hnodup
    exact fun hw => hnodup.1 (List.mem_append_right _ hw)
  exact h.moved (by simp [places, hi]) hwait (State.next_eq_some_iff.mpr hm)

/-- A submission takes six, of which its wait takes back up to five. -/
theorem submit_sound (h : Sound retry service s₀ t) (hi : t.current = some (i, room)) {r : Record}
    {n m : Nat} (ht : t.state.tasks[i]? = some ⟨r, .ready n⟩)
    (hm : m = t.state.calls.count r.key + 1) (delay : Nat) :
    Sound retry service s₀
        (if delay = 0 then t.note i r n m else (t.note i r n m).wait i room delay) ∧
      (if delay = 0 then t.note i r n m else (t.note i r n m).wait i room delay).effort retry <
        t.effort retry := by
  have hmoved := h.moved_current hi (.submit ht)
  rw [← hm] at hmoved
  have hsound : Sound retry service s₀ (t.note i r n m) :=
    ⟨⟨hmoved.reachable, hmoved.unfinished, hmoved.nodup, hmoved.queued, hmoved.turned⟩, h.full⟩
  -- A submission leaves so much less to do that a wait can be paid from it.
  have hsubmit : (t.note i r n m).state.effort retry + 6 = t.state.effort retry :=
    State.effort_submit retry m _ ht
  have heffort : (t.note i r n m).effort retry + 6 = t.effort retry := by
    change (t.note i r n m).state.effort retry + t.overhead + 6 = t.state.effort retry + t.overhead
    omega
  by_cases hdelay : delay = 0
  · rw [if_pos hdelay]
    exact ⟨hsound, by omega⟩
  · rw [if_neg hdelay]
    obtain ⟨hwaits, hle⟩ := wait_sound hsound hi room delay
    exact ⟨hwaits, by omega⟩

/-- A task that pauses gives up six, of which its wait takes back up to five. -/
theorem rest_sound (h : Sound retry service s₀ t) (hi : t.current = some (i, room)) {r : Record}
    {n m : Nat} (ht : t.state.tasks[i]? = some ⟨r, .calling n m⟩)
    (hd : retry.decide r n (service r m).answer = .again) (delay : Nat) :
    Sound retry service s₀
        ({ t with state := t.state.move i ⟨r, .calling n m⟩ (.resting n) }.wait i room delay) ∧
      ({ t with state := t.state.move i ⟨r, .calling n m⟩ (.resting n) }.wait i room delay).effort
        retry < t.effort retry := by
  let paused : Timeline := { t with state := t.state.move i ⟨r, .calling n m⟩ (.resting n) }
  have hsound : Sound retry service s₀ paused := ⟨h.moved_current hi (.rest ht hd), h.full⟩
  have hrest : paused.state.effort retry + 6 = t.state.effort retry := State.effort_rest ht hd
  have heffort : paused.effort retry + 6 = t.effort retry := by
    change paused.state.effort retry + t.overhead + 6 = t.state.effort retry + t.overhead
    omega
  obtain ⟨hwaits, hle⟩ := wait_sound hsound hi room delay
  exact ⟨hwaits, Nat.lt_of_le_of_lt hle (by omega)⟩

/-- Every move takes more than the wait, the next turn, or the turn of the task that gets a permit
that follow from it. -/
theorem move_sound (h : Sound retry service s₀ t) (hi : t.current = some (i, room))
    (hmoves : Moves retry service t i room t') :
    Sound retry service s₀ t' ∧ t'.effort retry < t.effort retry := by
  cases hmoves with
  | leave hover => exact leave_sound h hi hover
  | queue hqueued hfree => exact queue_sound h hi hqueued hfree
  | acquire ht hf =>
    have hm : Move retry service t.state i _ := .acquire ht hf
    -- A permit was free, so nobody waits for one, and taking it leaves nobody behind.
    have hnobody : t.waiting = [] := by
      by_contra hne
      exact hf (h.full hne)
    exact ⟨⟨h.moved_current hi hm, fun hne => absurd hnobody hne⟩,
      Nat.add_lt_add_right hm.effort_lt t.overhead⟩
  | submit ht hm => exact submit_sound h hi ht hm _
  | rest ht hd => exact rest_sound h hi ht hd _
  | @finish r q s' hm hself hq hfree hcalls =>
    have hover : ∀ task, s'.tasks[i]? = some task → task.phase.isOver = true := by
      intro task hjt
      rw [hself] at hjt
      cases hjt
      exact hq
    obtain ⟨hsound, hdown⟩ := handOn_sound (h.moved_current hi hm) hi hover
      fun hne => by rw [hfree, h.full hne]
    exact ⟨hsound, Nat.lt_trans hdown (Nat.add_lt_add_right hm.effort_lt t.overhead)⟩
  | resume ht =>
    have hm : Move retry service t.state i _ := .resume ht
    exact ⟨⟨h.moved_current hi hm, h.full⟩, Nat.add_lt_add_right hm.effort_lt t.overhead⟩

theorem takeTurn_sound (h : Sound retry service s₀ t) (hi : t.current = none) {delay : Nat}
    {rest : List (Nat × Nat)} (hawake : t.awake = (i, delay) :: rest) :
    Sound retry service s₀ (t.takeTurn i delay rest) ∧
      (t.takeTurn i delay rest).effort retry < t.effort retry := by
  rw [takeTurn]
  by_cases hdelay : delay = 0
  · rw [if_pos hdelay]
    refine ⟨⟨h.rearrange [] rfl ?_ nofun h.queued fun _ => Nat.succ_ne_zero _, h.full⟩, ?_⟩
    · simp [places, hi, hawake]
    · simp only [effort, overhead, hi, hawake, turnEffort, hdelay, if_true, Option.toList_some,
        Option.toList_none, List.map_cons, List.sum_cons, List.length_cons, List.length_nil]
      omega
  · rw [if_neg hdelay]
    refine ⟨⟨h.rearrange [] rfl ?_ nofun h.queued fun _ => Nat.succ_ne_zero _, h.full⟩, ?_⟩
    · -- The task only moves from one list to another.
      refine List.perm_iff_count.mpr fun j => ?_
      simp only [places, hi, hawake, Option.toList_none, List.map_cons, List.map_nil,
        List.map_append, List.count_append, List.count_cons, List.count_nil]
      omega
    · simp only [effort, overhead, hi, hawake, turnEffort, hdelay, if_false, Option.toList_none,
        List.map_cons, List.sum_cons, List.length_append, List.length_cons, List.length_nil]
      omega

/-- Calling the tasks that gave way ends a count of turns. -/
theorem call_sound (h : Sound retry service s₀ t) (hi : t.current = none) (hturns : t.turns ≠ 0) :
    Sound retry service s₀ t.call ∧ t.call.effort retry < t.effort retry := by
  refine ⟨⟨h.rearrange [] rfl ?_ nofun h.queued ?_, h.full⟩, ?_⟩
  · simp [places, call, hi]
  · rintro (hne | hne)
    · exact absurd hi hne
    · exact absurd rfl hne
  · simp only [effort, overhead, call, hi, Option.toList_none, List.map_append, List.map_nil,
      List.sum_append, List.sum_nil, List.length_nil]
    omega

/-- The moment that is jumped to is one at which a task wakes up. -/
theorem exists_of_wakeUp? {moment : Nat} (h : t.wakeUp? = some moment) :
    ∃ s ∈ t.sleeping, s.1 = moment := by
  -- The minimum is the first moment, or one of the others.
  have hmin (rest : List (Nat × Nat)) (m : Nat) : rest.foldl (fun m s => min m s.1) m = m ∨
      ∃ s ∈ rest, s.1 = rest.foldl (fun m s => min m s.1) m := by
    induction rest generalizing m with
    | nil => exact .inl rfl
    | cons s rest ih =>
      rw [List.foldl_cons]
      rcases ih (min m s.1) with heq | ⟨s', hs', heq⟩
      · rcases Nat.le_total m s.1 with hle | hle
        · exact .inl (heq.trans (Nat.min_eq_left hle))
        · exact .inr ⟨s, List.mem_cons_self, (heq.trans (Nat.min_eq_right hle)).symm⟩
      · exact .inr ⟨s', List.mem_cons_of_mem s hs', heq⟩
  unfold wakeUp? at h
  cases hs : t.sleeping with
  | nil =>
    rw [hs] at h
    cases h
  | cons s rest =>
    rw [hs] at h
    cases h
    rcases hmin rest s.1 with heq | ⟨s', hs', heq⟩
    · exact ⟨s, List.mem_cons_self, heq.symm⟩
    · exact ⟨s', List.mem_cons_of_mem s hs', heq⟩

/-- The tasks that wake up sleep no longer, and there is at least one. -/
theorem jump_sound (h : Sound retry service s₀ t) (hi : t.current = none) (hawake : t.awake = [])
    (hgaveWay : t.gaveWay = []) {moment : Nat} (hmoment : t.wakeUp? = some moment) :
    Sound retry service s₀ (t.jump moment) ∧ (t.jump moment).effort retry < t.effort retry := by
  have hsplit : (t.sleeping.filter (fun s => s.1 = moment) ++
      t.sleeping.filter (fun s => s.1 ≠ moment)).Perm t.sleeping := by
    have hperm := List.filter_append_perm (fun s : Nat × Nat => s.1 = moment) t.sleeping
    simpa only [decide_not] using hperm
  refine ⟨⟨h.rearrange [] rfl ?_ nofun h.queued ?_, h.full⟩, ?_⟩
  · have hsleeping := (hsplit.map Prod.snd).symm.append_right t.waiting
    simpa [places, jump, hi, hawake, hgaveWay, Function.comp_def] using hsleeping
  · rintro (hne | hne)
    · exact absurd hi hne
    · exact absurd hgaveWay hne
  · have hlength := hsplit.length_eq
    rw [List.length_append] at hlength
    -- Whoever is woken has less to do, and somebody is.
    have hwoken : 0 < (t.sleeping.filter fun s => s.1 = moment).length := by
      obtain ⟨s, hs, heq⟩ := exists_of_wakeUp? hmoment
      exact List.length_pos_of_mem (List.mem_filter.mpr ⟨hs, decide_eq_true heq⟩)
    have hturns : (((t.sleeping.filter fun s => s.1 = moment).map fun s => (s.2, 0)).map
        turnEffort).sum = 3 * (t.sleeping.filter fun s => s.1 = moment).length := by
      simp [Function.comp_def, turnEffort, Nat.mul_comm]
    have heffort : (t.jump moment).effort retry = t.state.effort retry +
        3 * (t.sleeping.filter fun s => s.1 = moment).length +
        4 * (t.sleeping.filter fun s => s.1 ≠ moment).length := by
      simp only [effort, overhead, jump, hturns, hi, hgaveWay]
      simp [Nat.add_assoc]
    have hbefore : t.state.effort retry + 4 * t.sleeping.length ≤ t.effort retry := by
      simp only [effort, overhead]
      omega
    omega

/-- What a step can be. -/
inductive Steps (retry : Retry) (service : Service) (t : Timeline) : Option Timeline → Prop where
  | move {i room : Nat} : t.current = some (i, room) →
    Steps retry service t (some (t.move retry service i room))
  | takeTurn {i delay : Nat} {rest : List (Nat × Nat)} : t.current = none →
    t.awake = (i, delay) :: rest → Steps retry service t (some (t.takeTurn i delay rest))
  | call : t.current = none → t.turns = callAfter ∨ t.gaveWay ≠ [] →
    Steps retry service t (some t.call)
  | jump {moment : Nat} : t.current = none → t.awake = [] → t.gaveWay = [] →
    t.wakeUp? = some moment → Steps retry service t (some (t.jump moment))
  | done : t.current = none → t.awake = [] → t.gaveWay = [] → t.sleeping = [] →
    Steps retry service t none

theorem steps_step (retry : Retry) (service : Service) (t : Timeline) :
    Steps retry service t (t.step retry service) := by
  unfold Timeline.step
  -- First whoever has its turn, then who is awake, then who gave way, and then time.
  cases hi : t.current with
  | some turn => exact .move hi
  | none =>
    cases hawake : t.awake with
    | cons turn rest =>
      dsimp only
      by_cases hturns : t.turns = callAfter
      · rw [if_pos hturns]
        exact .call hi (.inl hturns)
      · rw [if_neg hturns]
        exact .takeTurn hi hawake
    | nil =>
      dsimp only
      by_cases hgaveWay : t.gaveWay = []
      · rw [if_pos (List.isEmpty_iff.mpr hgaveWay)]
        cases hmoment : t.wakeUp? with
        | some moment => exact .jump hi hawake hgaveWay hmoment
        | none =>
          refine .done hi hawake hgaveWay ?_
          unfold wakeUp? at hmoment
          cases hsleeping : t.sleeping with
          | nil => rfl
          | cons s rest =>
            rw [hsleeping] at hmoment
            cases hmoment
      · rw [if_neg fun hempty => hgaveWay (List.isEmpty_iff.mp hempty)]
        exact .call hi (.inr hgaveWay)

/-- **Every step keeps each task in its place and leaves less to do.** -/
theorem Sound.step (h : Sound retry service s₀ t) (hstep : t.step retry service = some t') :
    Sound retry service s₀ t' ∧ t'.effort retry < t.effort retry := by
  have hsteps := steps_step retry service t
  rw [hstep] at hsteps
  cases hsteps with
  | move hi => exact move_sound h hi (moves_move retry service t _ _)
  | takeTurn hi hawake => exact takeTurn_sound h hi hawake
  | call hi hcall =>
    refine call_sound h hi ?_
    rcases hcall with hturns | hgaveWay
    · rw [hturns]
      decide
    · exact h.turned (.inr hgaveWay)
  | jump hi hawake hgaveWay hmoment => exact jump_sound h hi hawake hgaveWay hmoment

/-! ## The end -/

/-- When there is nothing left to do, every task has ended. The tasks that are left would all wait
for permits, and no task would hold one. -/
theorem Sound.complete {work : List Record} {permits : Nat}
    (h : Sound retry service (.start work permits) t) (hpermits : 0 < permits)
    (hstep : t.step retry service = none) : t.state.isComplete = true := by
  -- Who is left can only wait for a permit.
  have hplaces : t.places = t.waiting := by
    have hsteps := steps_step retry service t
    rw [hstep] at hsteps
    cases hsteps with
    | done hi hawake hgaveWay hsleeping => simp [places, hi, hawake, hgaveWay, hsleeping]
  have hqueued : ∀ task ∈ t.state.tasks, task.phase.isOver = true ∨ task.phase = .queued := by
    intro task htask
    obtain ⟨j, hj⟩ := List.mem_iff_getElem?.mp htask
    cases hover : task.phase.isOver with
    | true => exact .inl rfl
    | false =>
      have hphase := h.queued j (hplaces ▸ h.unfinished j task hj hover)
      rw [State.phase?, hj, Option.map_some, Option.some.injEq] at hphase
      exact .inr hphase
  have hfree : t.state.free = permits := h.reachable.conserved.free_eq hqueued
  -- All permits are free, though, and nobody waits for a free permit.
  have hempty : t.waiting = [] := by
    by_contra hne
    have hzero := h.full hne
    omega
  refine List.all_eq_true.mpr fun task htask => ?_
  obtain ⟨j, hj⟩ := List.mem_iff_getElem?.mp htask
  by_contra hover
  have hwaits := h.unfinished j task hj (Bool.eq_false_iff.mpr hover)
  rw [hplaces, hempty] at hwaits
  cases hwaits

/-- More fuel than effort is enough. -/
theorem Sound.run {n : Nat} (h : Sound retry service s₀ t) (hn : t.effort retry < n) :
    Sound retry service s₀ (t.run retry service n) ∧
      (t.run retry service n).step retry service = none := by
  induction n generalizing t with
  | zero => omega
  | succ n ih =>
    rw [Timeline.run]
    cases hstep : t.step retry service with
    | none => exact ⟨h, hstep⟩
    | some t' =>
      obtain ⟨hsound, hless⟩ := h.step hstep
      exact ih hsound (by omega)

theorem start_sound (retry : Retry) (service : Service) (work : List Record) (permits now : Nat) :
    Sound retry service (.start work permits) (start work permits now) := by
  have hplaces : (start work permits now).places = List.range work.length := by
    simp [start, places, Function.comp_def]
  refine ⟨⟨.start, ?_, ?_, nofun, ?_⟩, nofun⟩
  · intro j task hj _
    rw [hplaces, List.mem_range]
    have hlt := (List.getElem?_eq_some_iff.mp hj).1
    simpa [start, State.start] using hlt
  · rw [hplaces]
    exact List.nodup_range
  · rintro (hne | hne)
    · exact absurd rfl hne
    · exact absurd rfl hne

/-- The effort of all tasks at the start is thirteen for each attempt. -/
theorem effort_start (retry : Retry) (work : List Record) (permits now : Nat) :
    (start work permits now).effort retry = work.length * (13 * retry.attempts) := by
  have hpos : 1 ≤ retry.attempts := Nat.le_max_left 1 _
  have htask : 13 * (retry.attempts - 1) + 10 + 3 = 13 * retry.attempts := by omega
  have hturns : (start work permits now).overhead = work.length * 3 := by
    simp [start, overhead, Function.comp_def, turnEffort]
  change (State.start work permits).effort retry + (start work permits now).overhead = _
  rw [State.effort_start, hturns, ← Nat.mul_add, htask]

/-- **The work is done when a timeline ends.** -/
theorem finish_sound (retry : Retry) (service : Service) (work : List Record) {permits : Nat}
    (now : Nat) (hpermits : 0 < permits) :
    Reachable retry service (.start work permits) (finish retry service work permits now).state ∧
      (finish retry service work permits now).state.isComplete = true := by
  have hfuel : (start work permits now).effort retry < enough retry work := by
    rw [effort_start, enough]
    have hle := Nat.mul_le_mul_left work.length
      (Nat.mul_le_mul_left 13 (Nat.le_add_right retry.attempts 1))
    omega
  obtain ⟨hsound, hstep⟩ := (start_sound retry service work permits now).run hfuel
  exact ⟨hsound.reachable, hsound.complete hpermits hstep⟩

end Timeline

/-! ## Submitting many records -/

variable {c : Config} {service : Service} {work : List Record} {now : Nat} {timeline : Timeline}

theorem Config.permits?_pos {permits : Nat} (h : c.permits? = some permits) : 0 < permits := by
  unfold permits? at h
  split at h
  · cases h
    omega
  · cases h

/-- **The simulated scheduler dispatches**: what it leads to is what one interleaving leads to, and
is collected in the order in which the tasks ended. -/
theorem dispatch_dispatches (h : dispatch c service work now = some timeline) :
    Dispatches c service work timeline.state timeline.state.outcomes := by
  obtain ⟨permits, hpermits, rfl⟩ := Option.map_eq_some_iff.mp h
  obtain ⟨hreachable, hcomplete⟩ :=
    Timeline.finish_sound c.retry service work now (Config.permits?_pos hpermits)
  exact .intro hpermits hreachable hcomplete (outcomes_collects hreachable.conserved)

end Rollup.Verify
