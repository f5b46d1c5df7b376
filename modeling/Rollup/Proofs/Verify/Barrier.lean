/-
No submission before the last answer of a lookup.

When all slots have been read, the time is that of the longest read and the log has one read of
each proxy (`Planned`). Only then there is a work list. After that a run puts nothing but
submissions in front of its log, and asks the chain nothing more (`Submitting`).

The simulated scheduler is one of these runs (`run_executes`). Each of its steps is a turn, a
turn and the turn of the task that gets the permit, a passing of time, or nothing (`path_step`).
Time does not go back, because tasks sleep until moments that are still to come (`Ahead`).
-/
import Mathlib.Logic.Relation
import Rollup.Proofs.Verify.SlotReads
import Rollup.Proofs.Verify.Timeline

set_option autoImplicit false

namespace Rollup.Verify

open Contract (Key Record Topology)

variable {c : Config} {t : Topology} {service : Service} {m : Chain.Memory} {P Q : Snapshot}
  {reads : List SlotRead} {ended : List (Nat × Lookup)} {s s' : State} {i : Nat}

/-! ## All slots have been read -/

/-- What holds when all lookups have been joined, in whatever order. -/
structure Planned (c : Config) (t : Topology) (m : Chain.Memory) (P : Snapshot)
    (ended : List (Nat × Lookup)) : Prop where
  /-- The longest read is over, and no time has passed since. -/
  now : P.now = latest m t.proxies
  /-- The chain has counted one read of each proxy. -/
  memory : P.memory = { m with reads := m.reads + t.proxies.length }
  log : LookedUp t.proxies (fun p => latency m p.address) P.log
  work : WorkList.ofResolutions c (gather t.proxies ended) t.contracts =
    plan c t (slotLookup m c.slot)

/-- When all lookups have ended, the work list is made of their answers. -/
theorem Looking.planned (h : Looking c t m P reads ended)
    (hrange : ∀ p ∈ t.proxies, Wait.Measures (latency m p.address))
    (hjoined : ∀ r ∈ reads, r = .joined) : Planned c t m P ended := by
  refine ⟨?_, h.memory_eq hjoined, ?_, h.work_eq hjoined⟩
  · rw [h.now_eq hjoined, lookupSpan_slotLookup hrange]
  · apply (h.lookedUp hjoined).congr
    intro p hp
    exact delay_slotLookup_of_measures (hrange p hp) c.slot

/-! ## Records are submitted -/

/-- The entries of some submissions. -/
def submissionEntries (calls : List (Nat × Key)) : List Entry :=
  calls.map fun call => ⟨call.1, .submitted call.2⟩

/-- What holds once records are submitted. -/
structure Submitting (c : Config) (t : Topology) (service : Service) (m : Chain.Memory)
    (P : Snapshot) (s : State) : Prop where
  /-- The chain is asked nothing more. -/
  memory : P.memory = { m with reads := m.reads + t.proxies.length }
  late : latest m t.proxies ≤ P.now
  /-- All submissions stand before all that the lookups have left, and none was made before the
  longest read was over. -/
  log : ∃ calls lookups, P.log = submissionEntries calls ++ lookups ∧
    LookedUp t.proxies (fun p => latency m p.address) lookups ∧
    calls.map Prod.snd = s.calls ∧ ∀ call ∈ calls, latest m t.proxies ≤ call.1
  reachable : ∃ permits, c.permits? = some permits ∧
    Reachable c.retry service (.start (plan c t (slotLookup m c.slot)).dispatch permits) s

/-- Nothing has been submitted when the work list is made. -/
theorem Planned.submitting (h : Planned c t m P ended) (service : Service) {permits : Nat}
    (hpermits : c.permits? = some permits) :
    Submitting c t service m
      ⟨P.now, P.memory, .submissions (.start
        (WorkList.ofResolutions c (gather t.proxies ended) t.contracts).dispatch permits), P.log⟩
      (.start (WorkList.ofResolutions c (gather t.proxies ended) t.contracts).dispatch
        permits) := by
  rw [h.work]
  exact ⟨h.memory, Nat.le_of_eq h.now.symm, ⟨[], P.log, rfl, h.log, rfl, nofun⟩,
    permits, hpermits, .start⟩

/-- A turn adds its submissions to those before it. -/
theorem Move.calls_eq (h : Move c.retry service s i s') :
    s'.calls = s.callsSince s' ++ s.calls := by
  have hsuffix : s.calls <:+ s'.calls := by
    cases h with
    | submit ht => exact List.suffix_cons _ _
    | _ => exact List.suffix_rfl
  exact (List.suffix_iff_eq_append.mp hsuffix).symm

/-- A turn is taken after the lookups, and so are the submissions that it makes. -/
theorem Submitting.turn (h : Submitting c t service m P s)
    (hnext : s.next c.retry service i = some s') :
    Submitting c t service m
      ⟨P.now, P.memory, .submissions s', (s.callsSince s').map (⟨P.now, .submitted ·⟩) ++ P.log⟩
      s' := by
  obtain ⟨calls, lookups, hlog, hlookups, hcalls, hlate⟩ := h.log
  obtain ⟨permits, hpermits, hreachable⟩ := h.reachable
  refine ⟨h.memory, h.late, ?_, permits, hpermits, hreachable.next i hnext⟩
  refine ⟨(s.callsSince s').map (P.now, ·) ++ calls, lookups, ?_, hlookups, ?_, ?_⟩
  · -- The new submissions stand in front of the old ones, and the lookups stay behind all of them.
    rw [hlog, ← List.append_assoc]
    simp only [submissionEntries, List.map_append, List.map_map, Function.comp_def]
  · rw [(State.next_eq_some_iff.mp hnext).calls_eq, List.map_append, hcalls, List.map_map]
    simp only [Function.comp_def, List.map_id']
  · intro call hcall
    rcases List.mem_append.mp hcall with hnew | hold
    · obtain ⟨k, -, rfl⟩ := List.mem_map.mp hnew
      exact h.late
    · exact hlate call hold

/-- Time that passes changes nothing else. -/
theorem Submitting.pass (h : Submitting c t service m P s) {later : Nat} (hle : P.now ≤ later) :
    Submitting c t service m ⟨later, P.memory, .submissions s, P.log⟩ s :=
  ⟨h.memory, Nat.le_trans h.late hle, h.log, h.reachable⟩

/-- **Whatever is done once records are submitted keeps this.** -/
theorem Executes.submitting {n : Nat} (h : Executes c t service m n P)
    (hrange : ∀ p ∈ t.proxies, Wait.Measures (latency m p.address)) :
    ∀ s, P.stage = .submissions s → Submitting c t service m P s := by
  -- The induction is on the steps: the lookups end in one of them, and the others stay on one side
  -- of it.
  induction h with
  | start =>
    intro s hstage
    cases hstage
  | step hbefore hstep ih =>
    intro s hstage
    cases hstep with
    | begin hr hp => cases hstage
    | finish hr hdue hp => cases hstage
    | join hr => cases hstage
    | jump hidle hdue => cases hstage
    | plan hjoined hpermits =>
      cases hstage
      exact ((hbefore.looking _ _ rfl).planned hrange hjoined).submitting service hpermits
    | turn hnext =>
      cases hstage
      exact (ih _ rfl).turn hnext
    | pass hle =>
      cases hstage
      exact (ih _ rfl).pass hle

/-! ## The simulated scheduler -/

/-- More steps may follow. -/
theorem Executes.trans {n : Nat} (h : Executes c t service m n P)
    (hpath : Relation.ReflTransGen (Step c t service) P Q) : ∃ n, Executes c t service m n Q := by
  induction hpath with
  | refl => exact ⟨n, h⟩
  | tail _ hstep ih =>
    obtain ⟨n, hn⟩ := ih
    exact ⟨n + 1, .step hn hstep⟩

/-- The entry of a submission. -/
def Submission.entry (x : Submission) : Entry := ⟨x.moment, .submitted x.record.key⟩

namespace Timeline

/-- A timeline after lookups that have left a log. -/
def snapshot (memory : Chain.Memory) (lookups : List Entry) (T : Timeline) : Snapshot :=
  ⟨T.now, memory, .submissions T.state, T.submissions.map Submission.entry ++ lookups⟩

/-- Tasks sleep until moments that are still to come. -/
def Ahead (T : Timeline) : Prop := ∀ x ∈ T.sleeping, T.now ≤ x.1

variable {T T' : Timeline} {memory : Chain.Memory} {lookups : List Entry} {room : Nat}
  {s₀ : State}

/-- A wait is not seen in the state. -/
theorem snapshot_wait (delay : Nat) :
    (T.wait i room delay).snapshot memory lookups = T.snapshot memory lookups := by
  unfold wait
  cases room with
  | zero => rfl
  | succ room =>
    dsimp only
    by_cases hdelay : delay = 0
    · rw [if_pos hdelay]
      rfl
    · rw [if_neg hdelay]
      rfl

/-- What is waited for lies ahead. -/
theorem Ahead.wait (h : T.Ahead) (delay : Nat) : (T.wait i room delay).Ahead := by
  unfold Timeline.wait
  cases room with
  | zero => exact h
  | succ room =>
    dsimp only
    by_cases hdelay : delay = 0
    · -- No sleeper is added, since the task goes on in a later turn of the same moment.
      rw [if_pos hdelay]
      exact h
    · rw [if_neg hdelay]
      intro x hx
      rcases List.mem_append.mp hx with hx | hx
      · exact h x hx
      · -- The task that is added wakes after the delay.
        rw [List.mem_singleton.mp hx]
        exact Nat.le_add_right _ _

/-- A turn without a submission leaves the log as it is. -/
theorem step_quiet (hm : Move c.retry service T.state i s') (hcalls : s'.calls = T.state.calls) :
    Step c t service (T.snapshot memory lookups)
      ({ T with state := s' }.snapshot memory lookups) := by
  have hsince : T.state.callsSince s' = [] := by
    have hcalls' := hm.calls_eq
    rw [hcalls] at hcalls'
    exact List.self_eq_append_left.mp hcalls'
  have hturn : Step c t service (T.snapshot memory lookups) _ :=
    .turn (State.next_eq_some_iff.mpr hm)
  rw [hsince] at hturn
  exact hturn

/-- A submission is a turn, and is logged at its moment. -/
theorem step_note {r : Record} {n n' : Nat} (ht : T.state.tasks[i]? = some ⟨r, .ready n⟩)
    (hn' : n' = T.state.calls.count r.key + 1) :
    Step c t service (T.snapshot memory lookups) ((T.note i r n n').snapshot memory lookups) := by
  have hm : Move c.retry service T.state i (T.note i r n n').state := by
    rw [hn']
    exact .submit ht
  have hcalls : [r.key] ++ T.state.calls =
      T.state.callsSince (T.note i r n n').state ++ T.state.calls := hm.calls_eq
  have hsince := (List.append_cancel_right hcalls).symm
  have hturn : Step c t service (T.snapshot memory lookups) _ :=
    .turn (State.next_eq_some_iff.mpr hm)
  rw [hsince] at hturn
  exact hturn

/-- Handing a permit on is a turn of the task that gets it, if there is one. -/
theorem path_handOn (hqueued : ∀ w ∈ T.waiting, T.state.phase? w = some .queued) :
    Relation.ReflTransGen (Step c t service) (T.snapshot memory lookups)
      ((T.handOn c.retry service).snapshot memory lookups) := by
  cases hw : T.waiting with
  | nil =>
    have heq : T.handOn c.retry service = { T with current := none } := by simp [handOn, hw]
    rw [heq]
    exact .refl
  | cons w waiting =>
    cases hnext : T.state.next c.retry service w with
    | none =>
      have heq : T.handOn c.retry service = { T with current := none } := by
        simp [handOn, hw, hnext]
      rw [heq]
      exact .refl
    | some s' =>
      have heq : T.handOn c.retry service =
          { T with
            state := s', current := none, awake := T.awake ++ [(w, 0)], waiting := waiting } := by
        simp [handOn, hw, hnext]
      have hm := State.next_eq_some_iff.mp hnext
      -- A task that waits for a permit submits nothing when it gets one.
      have hcalls : s'.calls = T.state.calls := by
        have hphase := hqueued w (by rw [hw]; exact List.mem_cons_self)
        cases hm with
        | submit ht =>
          rw [State.phase?, ht] at hphase
          cases hphase
        | _ => rfl
      rw [heq]
      exact .single (step_quiet hm hcalls)

/-- A permit that is handed on is no wait. -/
theorem Ahead.handOn (h : T.Ahead) : (T.handOn c.retry service).Ahead := by
  unfold Timeline.handOn
  cases T.waiting with
  | nil => exact h
  | cons w waiting =>
    dsimp only
    cases T.state.next c.retry service w with
    | none => exact h
    | some s' => exact h

/-- A move is one turn, and a second one if it hands a permit on. -/
theorem path_move (h : Sound c.retry service s₀ T) (hi : T.current = some (i, room))
    (hmoves : Moves c.retry service T i room T') (hahead : T.Ahead) :
    Relation.ReflTransGen (Step c t service) (T.snapshot memory lookups)
      (T'.snapshot memory lookups) ∧ T'.Ahead := by
  cases hmoves with
  | leave hover => exact ⟨.refl, hahead⟩
  | queue hqueued hfree => exact ⟨.refl, hahead⟩
  | acquire ht hf => exact ⟨.single (step_quiet (.acquire ht hf) rfl), hahead⟩
  | @submit r n n' ht hn' =>
    have hstep : Step c t service (T.snapshot memory lookups)
        ((T.note i r n n').snapshot memory lookups) := step_note ht hn'
    have hnoted : (T.note i r n n').Ahead := hahead
    by_cases hdelay : Wait.span (service r n').delay = 0
    · rw [if_pos hdelay]
      exact ⟨.single hstep, hnoted⟩
    · rw [if_neg hdelay, snapshot_wait]
      exact ⟨.single hstep, hnoted.wait _⟩
  | @rest r n n' ht hd =>
    let paused : Timeline := { T with state := T.state.move i ⟨r, .calling n n'⟩ (.resting n) }
    have hpaused : paused.Ahead := hahead
    rw [snapshot_wait]
    exact ⟨.single (step_quiet (.rest ht hd) rfl), hpaused.wait _⟩
  | @finish r q s' hm hself hq hfree hcalls =>
    -- The turn of the task that ends comes first, and then the turn of the task that waits.
    have hfinished : { T with state := s' }.Ahead := hahead
    have hqueued := (h.moved_current hi hm).queued
    exact ⟨.head (step_quiet hm hcalls) (path_handOn hqueued), hfinished.handOn⟩
  | resume ht => exact ⟨.single (step_quiet (.resume ht) rfl), hahead⟩

/-- No task wakes up before the moment that is jumped to. -/
theorem le_of_wakeUp? {moment : Nat} (h : T.wakeUp? = some moment) :
    ∀ x ∈ T.sleeping, moment ≤ x.1 := by
  -- The minimum is taken from the left, so the induction is for any first moment.
  have hmin (rest : List (Nat × Nat)) (first : Nat) :
      rest.foldl (fun m s => min m s.1) first ≤ first ∧
        ∀ x ∈ rest, rest.foldl (fun m s => min m s.1) first ≤ x.1 := by
    induction rest generalizing first with
    | nil => exact ⟨Nat.le_refl first, nofun⟩
    | cons s rest ih =>
      obtain ⟨hfirst, hrest⟩ := ih (min first s.1)
      rw [List.foldl_cons, List.forall_mem_cons]
      exact ⟨Nat.le_trans hfirst (Nat.min_le_left _ _),
        Nat.le_trans hfirst (Nat.min_le_right _ _), hrest⟩
  unfold wakeUp? at h
  cases hs : T.sleeping with
  | nil => exact nofun
  | cons s rest =>
    rw [hs] at h
    cases h
    rw [List.forall_mem_cons]
    exact hmin rest s.1

/-- **Each step of the scheduler is made of steps of a run.** -/
theorem path_step (h : Sound c.retry service s₀ T) (hahead : T.Ahead)
    (hstep : T.step c.retry service = some T') :
    Relation.ReflTransGen (Step c t service) (T.snapshot memory lookups)
      (T'.snapshot memory lookups) ∧ T'.Ahead := by
  have hsteps := steps_step c.retry service T
  rw [hstep] at hsteps
  cases hsteps with
  | move hi => exact path_move h hi (moves_move c.retry service T _ _) hahead
  | @takeTurn i delay rest hi hawake =>
    unfold takeTurn
    by_cases hdelay : delay = 0
    · rw [if_pos hdelay]
      exact ⟨.refl, hahead⟩
    · rw [if_neg hdelay]
      refine ⟨.refl, ?_⟩
      intro x hx
      rcases List.mem_append.mp hx with hx | hx
      · exact hahead x hx
      · rw [List.mem_singleton.mp hx]
        exact Nat.le_add_right _ _
  | call hi hcall => exact ⟨.refl, hahead⟩
  -- Time only ever jumps forward, since all waits lie ahead.
  | @jump moment hi hawake hgaveWay hmoment =>
    obtain ⟨x, hx, heq⟩ := exists_of_wakeUp? hmoment
    have hlater : T.now ≤ moment := heq ▸ hahead x hx
    refine ⟨.single (.pass hlater), ?_⟩
    intro x hx
    exact le_of_wakeUp? hmoment x (List.mem_filter.mp hx).1

/-- A run of the scheduler is made of such steps. -/
theorem executes_run {n : Nat}
    (h : Executes c t service m n (T.snapshot memory lookups))
    (hsound : Sound c.retry service s₀ T) (hahead : T.Ahead) (fuel : Nat) :
    ∃ n, Executes c t service m n ((T.run c.retry service fuel).snapshot memory lookups) := by
  induction fuel generalizing n T with
  | zero => exact ⟨n, h⟩
  | succ fuel ih =>
    rw [Timeline.run]
    cases hstep : T.step c.retry service with
    | none => exact ⟨n, h⟩
    | some T' =>
      obtain ⟨hpath, hahead'⟩ := path_step hsound hahead hstep
      obtain ⟨n', hn'⟩ := h.trans hpath
      exact ih hn' (hsound.step hstep).1 hahead'

end Timeline

/-- **The simulated scheduler is one of the runs**: what it submits stands in front of what the
lookups of a run have left, and it ends when that run does. -/
theorem run_executes (hrange : ∀ p ∈ t.proxies, Wait.Measures (latency m p.address))
    {summary : Summary} (h : run c (slotLookup m c.slot) service t = some summary) :
    ∃ n memory s lookups, Executes c t service m n ⟨summary.finish, memory, .submissions s,
        summary.submissions.map Submission.entry ++ lookups⟩ ∧
      memory.reads = m.reads + summary.reads ∧ s.isComplete = true := by
  obtain ⟨timeline, htimeline, rfl⟩ := Option.map_eq_some_iff.mp h
  obtain ⟨permits, hpermits, rfl⟩ := Option.map_eq_some_iff.mp htimeline
  obtain ⟨n, P, reads, ended, hP, hstage, hjoined⟩ :=
    Executes.exists_joined (.start : Executes c t service m 0 (.start m t)) rfl
  have hplanned := (hP.looking reads ended hstage).planned hrange hjoined
  -- The scheduler begins with the work list and at the moment of this run.
  obtain ⟨now, memory, stage, log⟩ := P
  obtain rfl : stage = .lookups reads ended := hstage
  have hwork := hplanned.work
  have hnow : now = lookupSpan t.proxies (slotLookup m c.slot) := by
    rw [lookupSpan_slotLookup hrange]
    exact hplanned.now
  have hplan := hP.step (.plan hjoined hpermits)
  rw [hwork, hnow] at hplan
  let work := (plan c t (slotLookup m c.slot)).dispatch
  let T := Timeline.start work permits (lookupSpan t.proxies (slotLookup m c.slot))
  have hstart : Executes c t service m (n + 1) (T.snapshot memory log) := hplan
  obtain ⟨n', hend⟩ := Timeline.executes_run hstart
    (Timeline.start_sound c.retry service work permits _) nofun (Timeline.enough c.retry work)
  have hcomplete := (Timeline.finish_sound c.retry service work
    (lookupSpan t.proxies (slotLookup m c.slot)) (Config.permits?_pos hpermits)).2
  refine ⟨n', memory, _, log, hend, ?_, hcomplete⟩
  have hmemory : memory = _ := hplanned.memory
  rw [hmemory]

/-! ## The lookups come first -/

/-- A submission that is in the log was made when the longest read was over. -/
theorem Submitting.le_moment (h : Submitting c t service m P s) {x : Submission}
    (hx : x.entry ∈ P.log) : latest m t.proxies ≤ x.moment := by
  obtain ⟨calls, lookups, hlog, hlookups, -, hlate⟩ := h.log
  rw [hlog] at hx
  rcases List.mem_append.mp hx with hcall | hlookup
  · obtain ⟨call, hcall, heq⟩ := List.mem_map.mp hcall
    have hmoment : call.1 = x.moment := congrArg Entry.moment heq
    exact hmoment ▸ hlate call hcall
  · obtain ⟨i, -, habout⟩ := hlookups.only _ hlookup
    cases habout

/-- **All lookups come before all submissions.** While slots are read, nothing is submitted, and
the lookups come to an end: there is a next step until all tasks are joined, and four steps for each
proxy are enough. Then there was one read of each proxy, and the longest of them is just over,
whichever reads failed and in whatever order they ended. From then on the chain is asked nothing
more, and every submission is made after all of this. What the simulated scheduler does is one of
these runs. -/
theorem lookups_precede_submissions (c : Config) (t : Topology) (service : Service)
    (m : Chain.Memory) (hrange : ∀ p ∈ t.proxies, Wait.Measures (latency m p.address)) :
    (∀ n P reads ended, Executes c t service m n P → P.stage = .lookups reads ended →
      n ≤ 4 * t.proxies.length ∧
      (∀ e ∈ P.log, ∃ i < t.proxies.length, e.isAbout i = true) ∧
      ((∃ r ∈ reads, r ≠ .joined) →
        ∃ Q reads' ended', Step c t service P Q ∧ Q.stage = .lookups reads' ended') ∧
      ((∀ r ∈ reads, r = .joined) → Planned c t m P ended)) ∧
    (∀ n P s, Executes c t service m n P → P.stage = .submissions s →
      Submitting c t service m P s) ∧
    ∀ summary, run c (slotLookup m c.slot) service t = some summary →
      (∃ n memory s lookups, Executes c t service m n ⟨summary.finish, memory, .submissions s,
          summary.submissions.map Submission.entry ++ lookups⟩ ∧
        memory.reads = m.reads + summary.reads ∧ s.isComplete = true) ∧
      ∀ x ∈ summary.submissions, latest m t.proxies ≤ x.moment := by
  refine ⟨?_, ?_, ?_⟩
  · intro n P reads ended hP hstage
    have hlooking := hP.looking reads ended hstage
    refine ⟨Nat.le_of_add_right_le (hP.add_effort_le hstage), hlooking.only, ?_, ?_⟩
    · exact hlooking.exists_step service hstage
    · exact hlooking.planned hrange
  · intro n P s hP
    exact hP.submitting hrange s
  · intro summary hrun
    -- The scheduler does nothing that the steps do not allow.
    obtain ⟨n, memory, s, lookups, hexecutes, hreads, hcomplete⟩ := run_executes hrange hrun
    refine ⟨⟨n, memory, s, lookups, hexecutes, hreads, hcomplete⟩, ?_⟩
    intro x hx
    have hsubmitting := hexecutes.submitting hrange s rfl
    apply hsubmitting.le_moment
    exact List.mem_append_left _ (List.mem_map_of_mem hx)

/-- Two proxies. -/
def delayedTopology : Topology :=
  ⟨[⟨"A", .ofNat 1, 200, true⟩, ⟨"B", .ofNat 2, 200, true⟩], rfl⟩

/-- The read of one slot takes forty milliseconds and fails, and that of the other one thirty. -/
def delayedChain : Chain.Memory :=
  (((Chain.Memory.ofChainId 10).setLatency (.ofNat 1) (.ofMillis 40)).setFailure (.ofNat 1)
    .transient).setLatency (.ofNat 2) (.ofMillis 30)

/-- Every record is accepted at once. -/
def accepting : Service := fun _ _ => ⟨0, .accepted⟩

/-- No record is submitted before the slower read has failed. -/
theorem lookups_precede_submissions_delayed :
    (∀ p ∈ delayedTopology.proxies, Wait.Measures (latency delayedChain p.address)) ∧
    latest delayedChain delayedTopology.proxies = 40000000 ∧
    ∃ summary, run .standard (slotLookup delayedChain Config.standardSlot) accepting
        delayedTopology = some summary ∧
      summary.reads = 2 ∧ summary.submissions.length = 2 ∧
      ∀ x ∈ summary.submissions, 40000000 ≤ x.moment := by
  have hrange : ∀ p ∈ delayedTopology.proxies, Wait.Measures (latency delayedChain p.address) := by
    decide
  have hlatest : latest delayedChain delayedTopology.proxies = 40000000 := by decide
  obtain ⟨summary, hrun, hreads, hlength⟩ : ∃ summary,
      run .standard (slotLookup delayedChain Config.standardSlot) accepting delayedTopology =
        some summary ∧ summary.reads = 2 ∧ summary.submissions.length = 2 := by
    refine ⟨_, rfl, rfl, ?_⟩
    -- The scheduler is run on the work list, which has to be made first.
    change (Timeline.finish Retry.once accepting (plan .standard delayedTopology
      (slotLookup delayedChain Config.standardSlot)).dispatch 4 _).submissions.length = 2
    rw [plan_eq_ofLookups]
    decide +kernel
  obtain ⟨-, -, hscheduler⟩ :=
    lookups_precede_submissions .standard delayedTopology accepting delayedChain hrange
  have hlate := (hscheduler summary hrun).2
  rw [hlatest] at hlate
  exact ⟨hrange, hlatest, summary, hrun, hreads, hlength, hlate⟩

end Rollup.Verify
