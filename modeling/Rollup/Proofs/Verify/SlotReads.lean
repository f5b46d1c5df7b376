/-
A run on a chain in memory, step by step, and its lookups.

The slot of every proxy is read by a task of its own. A task that has its turn begins its read,
which the chain counts, waits for as long as the chain takes, and ends with the answer. The run
joins the tasks that have ended, one after the other in any order, and makes the work list when
no task is left. When nobody can go on, time jumps to the first moment at which a wait is over.
Once there is a work list the records are submitted, and time may pass at any moment, so that
nothing is asked of the service or of the scheduler.

All reads begin before any time has passed, because time passes only when no task is left that
could begin one. From this follow the moments of all reads (`Looking.lookedUp`), and the lookups
take as long as the longest of them (`Looking.now_eq`). They come to an end in any case: there is a
next step until they do (`Looking.exists_step`), and each step leaves less to do (`Step.effort_lt`).
-/
import Mathlib.Algebra.Order.BigOperators.Group.List
import Mathlib.Algebra.Order.Group.Nat
import Rollup.Chain.Memory
import Rollup.Proofs.Pauses
import Rollup.Proofs.Verify.Candidates
import Rollup.Proofs.Verify.Progress
import Rollup.Verify.Run

set_option autoImplicit false

namespace Rollup.Verify

open Contract (Key Record Topology)

/-! ## The lookups on a chain in memory -/

/-- How long a read of the storage of an account is delayed. -/
def latency (m : Chain.Memory) (a : Address) : Nat :=
  ((m.latencies.lookup a).map Duration.nanos).getD 0

/-- The greatest delay among the reads of some proxies. -/
def latest (m : Chain.Memory) (proxies : List Record) : Nat :=
  ((proxies.map fun p => latency m p.address).max?).getD 0

/-- The lookup of a proxy. -/
def slotLookup (m : Chain.Memory) (slot : Word) (p : Record) : TimedLookup :=
  ⟨(m.storageRun p.address slot).finish, .answered (m.storageAnswer p.address slot)⟩

/-- A lookup takes as long as a timer runs for the latency of the account. -/
theorem delay_slotLookup (m : Chain.Memory) (slot : Word) (p : Record) :
    (slotLookup m slot p).delay = Wait.span (latency m p.address) := by
  unfold slotLookup latency Chain.Memory.storageRun Chain.Memory.waits Chain.Run.finish
  cases m.latencies.lookup p.address with
  | none => exact Wait.span_zero.symm
  | some d => exact Nat.add_zero _

/-- Delays that a timer measures are waited for in full, and no longer. -/
theorem delay_slotLookup_of_measures {m : Chain.Memory} {p : Record}
    (h : Wait.Measures (latency m p.address)) (slot : Word) :
    (slotLookup m slot p).delay = latency m p.address := by
  rw [delay_slotLookup]
  exact Wait.span_of_measures h

/-! ## Steps -/

/-- Where the read of the slot of a proxy is. -/
inductive SlotRead where
  /-- Its task has had no turn yet. -/
  | queued
  /-- It has begun, and waits until a moment. -/
  | waiting (due : Nat)
  /-- Its task has ended. -/
  | answered (answer : Except ChainError Word)
  /-- The run has taken the answer. -/
  | joined

/-- What happens in a run. Proxies are told by their numbers. -/
inductive Event where
  | began (proxy : Nat)
  | ended (proxy : Nat)
  | submitted (key : Key)

/-- Something that happened at a moment. -/
structure Entry where
  moment : Nat
  event : Event

/-- Whether an entry is about the lookup of a proxy. -/
def Entry.isAbout (e : Entry) (i : Nat) : Bool :=
  match e.event with
  | .began j => j = i
  | .ended j => j = i
  | .submitted _ => false

/-- What a run is about. -/
inductive Stage where
  /-- The slots are read. The lookups stand in the order in which they were joined. -/
  | lookups (reads : List SlotRead) (ended : List (Nat × Lookup))
  | submissions (s : State)

/-- A run at one moment. -/
structure Snapshot where
  now : Nat
  memory : Chain.Memory
  stage : Stage
  /-- What has happened, the last event first. -/
  log : List Entry

/-- The start of a run: no task has had a turn. -/
def Snapshot.start (m : Chain.Memory) (t : Topology) : Snapshot :=
  ⟨0, m, .lookups (t.proxies.map fun _ => .queued) [], []⟩

/-- The keys of the submissions that a turn made. -/
def State.callsSince (s s' : State) : List Key := s'.calls.take (s'.calls.length - s.calls.length)

/-- What can happen next. -/
inductive Step (c : Config) (t : Topology) (service : Service) : Snapshot → Snapshot → Prop where
  /-- A task begins its read. -/
  | begin {now : Nat} {m : Chain.Memory} {reads : List SlotRead} {ended : List (Nat × Lookup)}
    {log : List Entry} {i : Nat} {p : Record} :
    reads[i]? = some .queued → t.proxies[i]? = some p →
    Step c t service ⟨now, m, .lookups reads ended, log⟩
      ⟨now, (m.readStorage p.address c.slot).2,
        .lookups (reads.set i (.waiting (now + (m.readStorage p.address c.slot).1.finish))) ended,
        ⟨now, .began i⟩ :: log⟩
  /-- The wait of a task is over, and its read is answered. -/
  | finish {now due : Nat} {m : Chain.Memory} {reads : List SlotRead}
    {ended : List (Nat × Lookup)} {log : List Entry} {i : Nat} {p : Record} :
    reads[i]? = some (.waiting due) → due ≤ now → t.proxies[i]? = some p →
    Step c t service ⟨now, m, .lookups reads ended, log⟩
      ⟨now, m, .lookups (reads.set i (.answered (m.storageAnswer p.address c.slot))) ended,
        ⟨now, .ended i⟩ :: log⟩
  /-- The run joins a task that has ended. -/
  | join {now : Nat} {m : Chain.Memory} {reads : List SlotRead} {ended : List (Nat × Lookup)}
    {log : List Entry} {i : Nat} {answer : Except ChainError Word} :
    reads[i]? = some (.answered answer) →
    Step c t service ⟨now, m, .lookups reads ended, log⟩
      ⟨now, m, .lookups (reads.set i .joined) (ended ++ [(i, .answered answer)]), log⟩
  /-- Nobody can go on, and time jumps to the first moment at which a task can. -/
  | jump {now due : Nat} {m : Chain.Memory} {reads : List SlotRead} {ended : List (Nat × Lookup)}
    {log : List Entry} :
    (∀ r ∈ reads, r = .joined ∨ ∃ d, r = .waiting d ∧ now < d ∧ due ≤ d) →
    .waiting due ∈ reads →
    Step c t service ⟨now, m, .lookups reads ended, log⟩ ⟨due, m, .lookups reads ended, log⟩
  /-- No task is left, and the records are handed over to be submitted. -/
  | plan {now permits : Nat} {m : Chain.Memory} {reads : List SlotRead}
    {ended : List (Nat × Lookup)} {log : List Entry} :
    (∀ r ∈ reads, r = .joined) → c.permits? = some permits →
    Step c t service ⟨now, m, .lookups reads ended, log⟩
      ⟨now, m, .submissions (.start
        (WorkList.ofResolutions c (gather t.proxies ended) t.contracts).dispatch permits), log⟩
  /-- A record has its turn. -/
  | turn {now i : Nat} {m : Chain.Memory} {s s' : State} {log : List Entry} :
    s.next c.retry service i = some s' →
    Step c t service ⟨now, m, .submissions s, log⟩
      ⟨now, m, .submissions s', (s.callsSince s').map (⟨now, .submitted ·⟩) ++ log⟩
  /-- Time passes. -/
  | pass {now later : Nat} {m : Chain.Memory} {s : State} {log : List Entry} :
    now ≤ later →
    Step c t service ⟨now, m, .submissions s, log⟩ ⟨later, m, .submissions s, log⟩

/-- What so many steps can lead to. -/
inductive Executes (c : Config) (t : Topology) (service : Service) (m : Chain.Memory) :
    Nat → Snapshot → Prop where
  | start : Executes c t service m 0 (.start m t)
  | step {n : Nat} {P Q : Snapshot} : Executes c t service m n P → Step c t service P Q →
    Executes c t service m (n + 1) Q

/-! ## What the lookups keep -/

/-- What the log says of a read, if its answer takes so long. -/
def SlotRead.entries (delay i : Nat) : SlotRead → List Entry
  | .queued => []
  | .waiting _ => [⟨0, .began i⟩]
  | .answered _ | .joined => [⟨delay, .ended i⟩, ⟨0, .began i⟩]

/-- A read is where it can be at a moment, if this is its lookup. -/
def SlotRead.Fits (look : TimedLookup) (now : Nat) : SlotRead → Prop
  | .queued => now = 0
  | .waiting due => due = look.delay ∧ now ≤ due
  | .answered answer => look.delay ≤ now ∧ .answered answer = look.lookup
  | .joined => look.delay ≤ now

/-- Whether a read has begun. -/
def SlotRead.hasBegun : SlotRead → Bool
  | .queued => false
  | .waiting _ | .answered _ | .joined => true

/-- What holds while slots are read. -/
structure Looking (c : Config) (t : Topology) (m : Chain.Memory) (P : Snapshot)
    (reads : List SlotRead) (ended : List (Nat × Lookup)) : Prop where
  length : reads.length = t.proxies.length
  /-- The chain counts the reads that have begun, and nothing else about it changes. -/
  memory : P.memory = { m with reads := m.reads + reads.countP SlotRead.hasBegun }
  fits : ∀ (i : Nat) (p : Record) (r : SlotRead), t.proxies[i]? = some p → reads[i]? = some r →
    r.Fits (slotLookup m c.slot p) P.now
  /-- Time has passed only until some lookup ended. -/
  reached : P.now = 0 ∨ ∃ p ∈ t.proxies, P.now = (slotLookup m c.slot p).delay
  log : ∀ (i : Nat) (p : Record) (r : SlotRead), t.proxies[i]? = some p → reads[i]? = some r →
    P.log.filter (·.isAbout i) = r.entries (slotLookup m c.slot p).delay i
  only : ∀ e ∈ P.log, ∃ i < t.proxies.length, e.isAbout i = true
  answers : ∀ a : Nat × Lookup, a ∈ ended ↔ reads[a.1]? = some .joined ∧
    ∃ p, t.proxies[a.1]? = some p ∧ a.2 = (slotLookup m c.slot p).lookup
  nodup : (ended.map Prod.fst).Nodup

variable {c : Config} {t : Topology} {service : Service} {m : Chain.Memory} {P Q : Snapshot}
  {reads : List SlotRead} {ended : List (Nat × Lookup)} {i : Nat} {p : Record}

/-- At the start all tasks are queued, and nothing has happened. -/
theorem Looking.start (c : Config) (t : Topology) (m : Chain.Memory) :
    Looking c t m (.start m t) (t.proxies.map fun _ => .queued) [] := by
  -- No read has begun, so most of the invariant speaks of nothing.
  have hqueued : ∀ (i : Nat) (r : SlotRead),
      (t.proxies.map fun _ => SlotRead.queued)[i]? = some r → r = .queued := by
    intro i r hr
    rw [List.getElem?_map, Option.map_eq_some_iff] at hr
    obtain ⟨-, -, rfl⟩ := hr
    rfl
  refine ⟨List.length_map _, ?_, ?_, .inl rfl, ?_, nofun, ?_, List.nodup_nil⟩
  · have hnone : (t.proxies.map fun _ => SlotRead.queued).countP SlotRead.hasBegun = 0 := by
      rw [List.countP_map]
      exact List.countP_eq_zero.mpr fun _ _ => nofun
    rw [hnone]
    rfl
  · intro i p r _ hr
    rw [hqueued i r hr]
    rfl
  · intro i p r _ hr
    rw [hqueued i r hr]
    rfl
  · intro a
    refine iff_of_false nofun ?_
    rintro ⟨hjoined, -⟩
    have hnot := hqueued a.1 .joined hjoined
    cases hnot

/-! ### Moving one read on -/

theorem isAbout_began (moment i j : Nat) :
    (Entry.mk moment (.began i)).isAbout j = decide (i = j) := rfl

theorem isAbout_ended (moment i j : Nat) :
    (Entry.mk moment (.ended i)).isAbout j = decide (i = j) := rfl

/-- If one read goes on to where it can be, then all are where they can be. -/
theorem Looking.fits_set (h : Looking c t m P reads ended) (hp : t.proxies[i]? = some p)
    {r : SlotRead} (hr : r.Fits (slotLookup m c.slot p) P.now) :
    ∀ (j : Nat) (q : Record) (r' : SlotRead), t.proxies[j]? = some q →
      (reads.set i r)[j]? = some r' → r'.Fits (slotLookup m c.slot q) P.now := by
  intro j q r' hq hr'
  rcases getElem?_set_cases hr' with ⟨rfl, rfl⟩ | ⟨-, hother⟩
  · obtain rfl : p = q := Option.some.inj (hp.symm.trans hq)
    exact hr
  · exact h.fits j q r' hq hother

/-- An entry about one proxy is added to what the log says of it, and to nothing else. -/
theorem Looking.log_set (h : Looking c t m P reads ended) (hp : t.proxies[i]? = some p)
    {r r' : SlotRead} (hr : reads[i]? = some r) {e : Entry}
    (he : ∀ j, e.isAbout j = decide (i = j))
    (hentries : r'.entries (slotLookup m c.slot p).delay i =
      e :: r.entries (slotLookup m c.slot p).delay i) :
    ∀ (j : Nat) (q : Record) (r'' : SlotRead), t.proxies[j]? = some q →
      (reads.set i r')[j]? = some r'' →
      (e :: P.log).filter (·.isAbout j) = r''.entries (slotLookup m c.slot q).delay j := by
  intro j q r'' hq hr''
  rcases getElem?_set_cases hr'' with ⟨rfl, rfl⟩ | ⟨hij, hother⟩
  · obtain rfl : p = q := Option.some.inj (hp.symm.trans hq)
    rw [List.filter_cons_of_pos (by rw [he, decide_eq_true rfl]), h.log i p r hp hr, hentries]
  · -- What the log says of another read does not change.
    have hnot : ¬ e.isAbout j = true := by
      rw [he, decide_eq_true_eq]
      exact hij
    rw [List.filter_cons, if_neg hnot]
    exact h.log j q r'' hq hother

/-- An entry about a proxy is about some proxy. -/
theorem Looking.only_cons (h : Looking c t m P reads ended) (hp : t.proxies[i]? = some p)
    {e : Entry} (he : e.isAbout i = true) :
    ∀ x ∈ e :: P.log, ∃ j < t.proxies.length, x.isAbout j = true := by
  intro x hx
  rcases List.mem_cons.mp hx with rfl | hx
  · obtain ⟨hlt, -⟩ := List.getElem?_eq_some_iff.mp hp
    exact ⟨i, hlt, he⟩
  · exact h.only x hx

/-- A read that goes on without being joined leaves the joined ones as they are. -/
theorem Looking.answers_set (h : Looking c t m P reads ended) {r r' : SlotRead}
    (hr : reads[i]? = some r) (hnot : r ≠ .joined) (hnot' : r' ≠ .joined) :
    ∀ a : Nat × Lookup, a ∈ ended ↔ (reads.set i r')[a.1]? = some .joined ∧
      ∃ p, t.proxies[a.1]? = some p ∧ a.2 = (slotLookup m c.slot p).lookup := by
  intro a
  rw [h.answers]
  apply and_congr_left
  intro _
  -- This read was not joined before, and is not joined now.
  by_cases hia : i = a.1
  · rw [← hia, hr, List.getElem?_set_self (List.getElem?_eq_some_iff.mp hr).1]
    apply iff_of_false
    · intro heq
      exact hnot (Option.some.inj heq)
    · intro heq
      exact hnot' (Option.some.inj heq)
  · rw [List.getElem?_set_ne hia]

/-- A read that begins is counted, and waits for as long as its answer takes. -/
theorem Looking.begin (h : Looking c t m P reads ended) (hr : reads[i]? = some .queued)
    (hp : t.proxies[i]? = some p) :
    Looking c t m
      ⟨P.now, (P.memory.readStorage p.address c.slot).2,
        .lookups (reads.set i (.waiting
          (P.now + (P.memory.readStorage p.address c.slot).1.finish))) ended,
        ⟨P.now, .began i⟩ :: P.log⟩
      (reads.set i (.waiting (P.now + (P.memory.readStorage p.address c.slot).1.finish)))
      ended := by
  -- No time has passed, since this task still had a turn to come.
  have hzero : P.now = 0 := h.fits i p .queued hp hr
  have hfinish : (P.memory.readStorage p.address c.slot).1.finish =
      (slotLookup m c.slot p).delay := by
    rw [h.memory]
    rfl
  rw [hfinish, hzero, Nat.zero_add]
  refine ⟨?_, ?_, ?_, .inl rfl, ?_, ?_, h.answers_set hr nofun nofun, h.nodup⟩
  · rw [List.length_set, h.length]
  · have hcount := countP_set_add (.waiting (slotLookup m c.slot p).delay) SlotRead.hasBegun hr
    simp only [SlotRead.hasBegun, Bool.toNat_false, Bool.toNat_true, Nat.add_zero] at hcount
    rw [hcount, h.memory]
    rfl
  · have hwaits : (SlotRead.waiting (slotLookup m c.slot p).delay).Fits
        (slotLookup m c.slot p) P.now := ⟨rfl, by rw [hzero]; exact Nat.zero_le _⟩
    have hfits := h.fits_set hp hwaits
    rw [hzero] at hfits
    exact hfits
  · exact h.log_set hp hr (isAbout_began 0 i) rfl
  · exact h.only_cons hp (by rw [isAbout_began, decide_eq_true rfl])

/-- A read whose wait is over is answered, as late as its answer takes. -/
theorem Looking.finish (h : Looking c t m P reads ended) {due : Nat}
    (hr : reads[i]? = some (.waiting due)) (hdue : due ≤ P.now) (hp : t.proxies[i]? = some p) :
    Looking c t m
      ⟨P.now, P.memory,
        .lookups (reads.set i (.answered (P.memory.storageAnswer p.address c.slot))) ended,
        ⟨P.now, .ended i⟩ :: P.log⟩
      (reads.set i (.answered (P.memory.storageAnswer p.address c.slot))) ended := by
  obtain ⟨hdelay, hle⟩ : due = (slotLookup m c.slot p).delay ∧ P.now ≤ due :=
    h.fits i p (.waiting due) hp hr
  -- Time never jumps over the end of a wait, so it is exactly now.
  have hnow : P.now = (slotLookup m c.slot p).delay := by omega
  have hanswer : Lookup.answered (P.memory.storageAnswer p.address c.slot) =
      (slotLookup m c.slot p).lookup := by
    rw [h.memory]
    rfl
  refine ⟨?_, ?_, ?_, h.reached, ?_, ?_, h.answers_set hr nofun nofun, h.nodup⟩
  · rw [List.length_set, h.length]
  · have hcount := countP_set_add (.answered (P.memory.storageAnswer p.address c.slot))
      SlotRead.hasBegun hr
    simp only [SlotRead.hasBegun, Bool.toNat_true, Nat.add_right_cancel_iff] at hcount
    rw [hcount]
    exact h.memory
  · exact h.fits_set hp ⟨Nat.le_of_eq hnow.symm, hanswer⟩
  · apply h.log_set hp hr (isAbout_ended P.now i)
    rw [hnow]
    rfl
  · exact h.only_cons hp (by rw [isAbout_ended, decide_eq_true rfl])

/-- A task that is joined hands its answer over. -/
theorem Looking.join (h : Looking c t m P reads ended) {answer : Except ChainError Word}
    (hr : reads[i]? = some (.answered answer)) :
    Looking c t m
      ⟨P.now, P.memory, .lookups (reads.set i .joined) (ended ++ [(i, .answered answer)]), P.log⟩
      (reads.set i .joined) (ended ++ [(i, .answered answer)]) := by
  have hlt : i < reads.length := (List.getElem?_eq_some_iff.mp hr).1
  obtain ⟨p, hp⟩ : ∃ p, t.proxies[i]? = some p :=
    ⟨_, List.getElem?_eq_getElem (h.length ▸ hlt)⟩
  obtain ⟨hdelay, hanswer⟩ : (slotLookup m c.slot p).delay ≤ P.now ∧
      .answered answer = (slotLookup m c.slot p).lookup := h.fits i p _ hp hr
  refine ⟨?_, ?_, h.fits_set hp hdelay, h.reached, ?_, h.only, ?_, ?_⟩
  · rw [List.length_set, h.length]
  · have hcount := countP_set_add .joined SlotRead.hasBegun hr
    simp only [SlotRead.hasBegun, Bool.toNat_true, Nat.add_right_cancel_iff] at hcount
    rw [hcount]
    exact h.memory
  · intro j q r hq hr'
    rcases getElem?_set_cases hr' with ⟨rfl, rfl⟩ | ⟨-, hother⟩
    · exact h.log i q (.answered answer) hq hr
    · exact h.log j q r hq hother
  · intro a
    rw [List.mem_append, List.mem_singleton, h.answers]
    by_cases hia : i = a.1
    · -- The answer of this read is the new one.
      rw [← hia, hr, List.getElem?_set_self hlt]
      constructor
      · rintro (⟨hjoined, -⟩ | rfl)
        · cases hjoined
        · exact ⟨rfl, p, hp, hanswer⟩
      · rintro ⟨-, q, hq, hlookup⟩
        obtain rfl : p = q := Option.some.inj (hp.symm.trans hq)
        exact .inr (Prod.ext hia.symm (hlookup.trans hanswer.symm))
    · rw [List.getElem?_set_ne hia]
      constructor
      · rintro (hold | rfl)
        · exact hold
        · exact absurd rfl hia
      · exact .inl
  · rw [List.map_append, List.nodup_append]
    refine ⟨h.nodup, List.nodup_singleton i, ?_⟩
    rintro x hx y hy rfl
    -- A number that stood in the list before is that of a read that was joined before.
    obtain ⟨a, ha, rfl⟩ := List.mem_map.mp hx
    have hjoined := ((h.answers a).mp ha).1
    rw [List.map_singleton, List.mem_singleton] at hy
    rw [hy, hr] at hjoined
    cases hjoined

/-- A jump does not go past the end of any wait. -/
theorem Looking.jump (h : Looking c t m P reads ended) {due : Nat}
    (hidle : ∀ r ∈ reads, r = .joined ∨ ∃ d, r = .waiting d ∧ P.now < d ∧ due ≤ d)
    (hdue : .waiting due ∈ reads) :
    Looking c t m ⟨due, P.memory, .lookups reads ended, P.log⟩ reads ended := by
  have hlater : P.now ≤ due := by
    rcases hidle _ hdue with hjoined | ⟨d, heq, hlt, -⟩
    · cases hjoined
    · cases heq
      exact Nat.le_of_lt hlt
  refine ⟨h.length, h.memory, ?_, ?_, h.log, h.only, h.answers, h.nodup⟩
  -- No read is queued, so that none has to be at the start, and no wait ends before the jump does.
  · intro j q r hq hr
    have hold := h.fits j q r hq hr
    rcases hidle r (List.mem_of_getElem? hr) with rfl | ⟨d, rfl, -, hle⟩
    · have hdelay : (slotLookup m c.slot q).delay ≤ P.now := hold
      exact Nat.le_trans hdelay hlater
    · exact ⟨hold.1, hle⟩
  · obtain ⟨j, hj⟩ := List.mem_iff_getElem?.mp hdue
    obtain ⟨hlt, -⟩ := List.getElem?_eq_some_iff.mp hj
    rw [h.length] at hlt
    have hq : t.proxies[j]? = some t.proxies[j] := List.getElem?_eq_getElem hlt
    exact .inr ⟨t.proxies[j], List.getElem_mem hlt, (h.fits j _ _ hq hj).1⟩

/-- **Every step of the lookups keeps this**, and only they lead to lookups. -/
theorem Looking.step (h : ∀ reads ended, P.stage = .lookups reads ended →
      Looking c t m P reads ended) (hstep : Step c t service P Q) :
    ∀ reads ended, Q.stage = .lookups reads ended → Looking c t m Q reads ended := by
  intro reads ended hstage
  cases hstep with
  | begin hr hp =>
    cases hstage
    exact (h _ _ rfl).begin hr hp
  | finish hr hdue hp =>
    cases hstage
    exact (h _ _ rfl).finish hr hdue hp
  | join hr =>
    cases hstage
    exact (h _ _ rfl).join hr
  | jump hidle hdue =>
    cases hstage
    exact (h _ _ rfl).jump hidle hdue
  -- From here on the lookups are over.
  | plan hjoined hpermits => cases hstage
  | turn hnext => cases hstage
  | pass hle => cases hstage

/-- **What the lookups keep** holds after any number of steps. -/
theorem Executes.looking {n : Nat} (h : Executes c t service m n P) :
    ∀ reads ended, P.stage = .lookups reads ended → Looking c t m P reads ended := by
  induction h with
  | start =>
    intro reads ended hstage
    cases hstage
    exact .start c t m
  | step _ hstep ih => exact Looking.step ih hstep

/-! ## The end of the lookups -/

/-- The lookups take as long as the longest of them. -/
theorem lookupSpan_eq (proxies : List Record) (look : Record → TimedLookup) :
    lookupSpan proxies look = ((proxies.map fun p => (look p).delay).max?).getD 0 := by
  have hfold := List.foldl_max (l := proxies.map fun p => (look p).delay) (a := 0)
  rw [List.foldl_map, Nat.zero_max] at hfold
  exact hfold

/-- No lookup takes longer than all of them. -/
theorem le_lookupSpan {proxies : List Record} (look : Record → TimedLookup)
    (hp : p ∈ proxies) : (look p).delay ≤ lookupSpan proxies look := by
  rw [lookupSpan_eq]
  exact List.le_max?_getD_of_mem (List.mem_map_of_mem hp)

/-- The lookups take no longer than what bounds each of them. -/
theorem lookupSpan_le {proxies : List Record} {look : Record → TimedLookup} {n : Nat}
    (h : ∀ p ∈ proxies, (look p).delay ≤ n) : lookupSpan proxies look ≤ n := by
  rw [lookupSpan_eq]
  cases hmax : (proxies.map fun p => (look p).delay).max? with
  | none => exact Nat.zero_le n
  | some d =>
    obtain ⟨p, hp, rfl⟩ := List.mem_map.mp (List.max?_mem hmax)
    exact h p hp

/-- Delays that a timer measures make up the time of the lookups. -/
theorem lookupSpan_slotLookup (hrange : ∀ p ∈ t.proxies, Wait.Measures (latency m p.address))
    (slot : Word) : lookupSpan t.proxies (slotLookup m slot) = latest m t.proxies := by
  have hdelays : t.proxies.map (fun p => (slotLookup m slot p).delay) =
      t.proxies.map fun p => latency m p.address :=
    List.map_congr_left fun p hp => delay_slotLookup_of_measures (hrange p hp) slot
  rw [lookupSpan_eq, hdelays]
  rfl

/-- The log has of each proxy that its read began at the start and ended when its answer was there,
and has nothing else. -/
structure LookedUp (proxies : List Record) (delay : Record → Nat) (log : List Entry) : Prop where
  each : ∀ (i : Nat) (p : Record), proxies[i]? = some p →
    log.filter (·.isAbout i) = [⟨delay p, .ended i⟩, ⟨0, .began i⟩]
  only : ∀ e ∈ log, ∃ i < proxies.length, e.isAbout i = true

/-- Delays that are the same for the proxies make the same lookups. -/
theorem LookedUp.congr {proxies : List Record} {delay delay' : Record → Nat} {log : List Entry}
    (h : LookedUp proxies delay log) (hdelay : ∀ p ∈ proxies, delay p = delay' p) :
    LookedUp proxies delay' log := by
  refine ⟨?_, h.only⟩
  intro i p hp
  rw [h.each i p hp, hdelay p (List.mem_of_getElem? hp)]

/-- When no task is left, the read of every proxy has been joined. -/
theorem Looking.joined_of_getElem? (h : Looking c t m P reads ended)
    (hjoined : ∀ r ∈ reads, r = .joined) (hp : t.proxies[i]? = some p) :
    reads[i]? = some .joined := by
  obtain ⟨hlt, -⟩ := List.getElem?_eq_some_iff.mp hp
  rw [← h.length] at hlt
  rw [List.getElem?_eq_getElem hlt, hjoined _ (List.getElem_mem hlt)]

/-- When no task is left, every read has begun at once and ended as late as its answer takes. -/
theorem Looking.lookedUp (h : Looking c t m P reads ended) (hjoined : ∀ r ∈ reads, r = .joined) :
    LookedUp t.proxies (fun p => (slotLookup m c.slot p).delay) P.log := by
  refine ⟨?_, h.only⟩
  intro i p hp
  exact h.log i p .joined hp (h.joined_of_getElem? hjoined hp)

/-- Each proxy was read once. -/
theorem Looking.memory_eq (h : Looking c t m P reads ended) (hjoined : ∀ r ∈ reads, r = .joined) :
    P.memory = { m with reads := m.reads + t.proxies.length } := by
  have hall : reads.countP SlotRead.hasBegun = t.proxies.length := by
    rw [← h.length]
    refine List.countP_eq_length.mpr ?_
    intro r hr
    rw [hjoined r hr]
    rfl
  rw [h.memory, hall]

/-- **The lookups take as long as the longest of them**, and not as long as all of them. -/
theorem Looking.now_eq (h : Looking c t m P reads ended) (hjoined : ∀ r ∈ reads, r = .joined) :
    P.now = lookupSpan t.proxies (slotLookup m c.slot) := by
  apply Nat.le_antisymm
  -- Time has passed only until some lookup ended, and it has passed until each did.
  · rcases h.reached with hzero | ⟨p, hp, hdelay⟩
    · rw [hzero]
      exact Nat.zero_le _
    · rw [hdelay]
      exact le_lookupSpan _ hp
  · apply lookupSpan_le
    intro p hp
    obtain ⟨i, hi⟩ := List.mem_iff_getElem?.mp hp
    exact h.fits i p .joined hi (h.joined_of_getElem? hjoined hi)

/-- Each proxy has the answer to its read, in the order in which the tasks were joined. -/
theorem Looking.ended_perm (h : Looking c t m P reads ended) (hjoined : ∀ r ∈ reads, r = .joined) :
    ended.Perm (t.proxies.zipIdx.map fun (p, i) => (i, (slotLookup m c.slot p).lookup)) := by
  have hnumbers : ((t.proxies.zipIdx.map fun (p, i) =>
      (i, (slotLookup m c.slot p).lookup)).map Prod.fst).Nodup := by
    have hrange : (t.proxies.zipIdx.map Prod.snd).Nodup := by
      rw [List.zipIdx_map_snd]
      exact List.nodup_range'
    rw [List.map_map]
    exact hrange
  -- No number occurs twice on either side, so that the same members are enough.
  rw [List.perm_ext_iff_of_nodup h.nodup.of_map hnumbers.of_map]
  rintro ⟨i, l⟩
  rw [h.answers, List.mem_map]
  constructor
  · rintro ⟨-, p, hp, rfl⟩
    exact ⟨(p, i), List.mk_mem_zipIdx_iff_getElem?.mpr hp, rfl⟩
  · rintro ⟨⟨p, j⟩, hp, heq⟩
    obtain ⟨rfl, rfl⟩ := Prod.mk.inj heq
    have hp := List.mk_mem_zipIdx_iff_getElem?.mp hp
    exact ⟨h.joined_of_getElem? hjoined hp, p, hp, rfl⟩

/-- Whatever that order, the work list is the one of the plan. -/
theorem Looking.work_eq (h : Looking c t m P reads ended) (hjoined : ∀ r ∈ reads, r = .joined) :
    WorkList.ofResolutions c (gather t.proxies ended) t.contracts =
      plan c t (slotLookup m c.slot) := by
  have hresolves : Resolves t.proxies (fun p => (slotLookup m c.slot p).lookup)
      (gather t.proxies ended) := .intro (h.ended_perm hjoined) (.refl _)
  rw [plan, resolve_eq_map, hresolves.eq_map]

/-! ## The lookups come to an end -/

/-- How many steps a read has left to take or to be waited for. -/
def SlotRead.effort (now : Nat) : SlotRead → Nat
  | .queued => 4
  | .waiting due => if due ≤ now then 2 else 3
  | .answered _ => 1
  | .joined => 0

/-- How many steps all reads have left. -/
def lookupEffort (now : Nat) (reads : List SlotRead) : Nat := (reads.map (SlotRead.effort now)).sum

/-- If one read has less to do, then all of them have. -/
theorem lookupEffort_set {now : Nat} {r r' : SlotRead} (hr : reads[i]? = some r)
    (hless : r'.effort now < r.effort now) :
    lookupEffort now (reads.set i r') < lookupEffort now reads := by
  have hsum := sum_map_set r' (SlotRead.effort now) hr
  unfold lookupEffort
  omega

theorem SlotRead.effort_waiting (now due : Nat) :
    (SlotRead.waiting due).effort now = if due ≤ now then 2 else 3 := rfl

/-- A read that has begun has less to do than one that has not. -/
theorem SlotRead.effort_waiting_lt (now due : Nat) : (SlotRead.waiting due).effort now < 4 := by
  rw [effort_waiting]
  split <;> omega

/-- As time passes, no read has more to do. -/
theorem SlotRead.effort_le_effort {now later : Nat} (h : now ≤ later) (r : SlotRead) :
    r.effort later ≤ r.effort now := by
  cases r with
  | queued => exact Nat.le_refl _
  | waiting due =>
    rw [effort_waiting, effort_waiting]
    split <;> split <;> omega
  | answered answer => exact Nat.le_refl _
  | joined => exact Nat.le_refl _

/-- When time jumps, at least one wait is over. -/
theorem lookupEffort_jump {now due : Nat} (hdue : .waiting due ∈ reads) (hlater : now < due) :
    lookupEffort due reads < lookupEffort now reads := by
  -- The wait that ends has less left to do, and no other one has more.
  refine List.sum_lt_sum _ _ ?_ ⟨_, hdue, ?_⟩
  · intro r _
    exact r.effort_le_effort (Nat.le_of_lt hlater)
  · rw [SlotRead.effort_waiting, if_pos (Nat.le_refl due), SlotRead.effort_waiting,
      if_neg (Nat.not_le.mpr hlater)]
    exact Nat.lt_add_one 2

/-- **Each step of the lookups leaves less to do.** -/
theorem Step.effort_lt (h : Step c t service P Q) (hstage : Q.stage = .lookups reads ended) :
    ∃ reads₀ ended₀, P.stage = .lookups reads₀ ended₀ ∧
      lookupEffort Q.now reads < lookupEffort P.now reads₀ := by
  cases h with
  | begin hr hp =>
    cases hstage
    exact ⟨_, _, rfl, lookupEffort_set hr (SlotRead.effort_waiting_lt _ _)⟩
  | finish hr hdue hp =>
    cases hstage
    refine ⟨_, _, rfl, lookupEffort_set hr ?_⟩
    rw [SlotRead.effort_waiting, if_pos hdue]
    exact Nat.lt_add_one 1
  | join hr =>
    cases hstage
    exact ⟨_, _, rfl, lookupEffort_set hr Nat.one_pos⟩
  | @jump now due _ _ _ _ hidle hdue =>
    cases hstage
    refine ⟨_, _, rfl, lookupEffort_jump hdue ?_⟩
    -- The wait that ends first is not over yet, so its end is less to do.
    rcases hidle _ hdue with hjoined | ⟨d, heq, hlt, -⟩
    · cases hjoined
    · cases heq
      exact hlt
  | plan hjoined hpermits => cases hstage
  | turn hnext => cases hstage
  | pass hle => cases hstage

/-- Four steps for each proxy are enough. -/
theorem Executes.add_effort_le {n : Nat} (h : Executes c t service m n P)
    (hstage : P.stage = .lookups reads ended) :
    n + lookupEffort P.now reads ≤ 4 * t.proxies.length := by
  induction h generalizing reads ended with
  | start =>
    cases hstage
    apply Nat.le_of_eq
    simp [lookupEffort, Snapshot.start, SlotRead.effort, Nat.mul_comm]
  | step _ hstep ih =>
    obtain ⟨reads₀, ended₀, hstage₀, hless⟩ := hstep.effort_lt hstage
    have hbound := ih hstage₀
    omega

/-- **While some task is not joined, the lookups go on.** -/
theorem Looking.exists_step (h : Looking c t m P reads ended) (service : Service)
    (hstage : P.stage = .lookups reads ended) (hleft : ∃ r ∈ reads, r ≠ .joined) :
    ∃ Q reads' ended', Step c t service P Q ∧ Q.stage = .lookups reads' ended' := by
  obtain ⟨now, memory, stage, log⟩ := P
  obtain rfl : stage = .lookups reads ended := hstage
  have hproxy : ∀ {i : Nat} {r : SlotRead}, reads[i]? = some r → ∃ p, t.proxies[i]? = some p := by
    intro i r hr
    obtain ⟨hlt, -⟩ := List.getElem?_eq_some_iff.mp hr
    rw [h.length] at hlt
    exact ⟨_, List.getElem?_eq_getElem hlt⟩
  -- A task that has had no turn goes first, then one that has ended, and then one that waits.
  by_cases hqueued : .queued ∈ reads
  · obtain ⟨i, hr⟩ := List.mem_iff_getElem?.mp hqueued
    obtain ⟨p, hp⟩ := hproxy hr
    exact ⟨_, _, _, .begin hr hp, rfl⟩
  by_cases hanswered : ∃ answer, .answered answer ∈ reads
  · obtain ⟨answer, hmem⟩ := hanswered
    obtain ⟨i, hr⟩ := List.mem_iff_getElem?.mp hmem
    exact ⟨_, _, _, .join hr, rfl⟩
  have hidle : ∀ r ∈ reads, r = .joined ∨ ∃ d, r = .waiting d := by
    intro r hr
    cases r with
    | queued => exact absurd hr hqueued
    | waiting d => exact .inr ⟨d, rfl⟩
    | answered answer => exact absurd ⟨answer, hr⟩ hanswered
    | joined => exact .inl rfl
  have hwaiting : ∃ d, .waiting d ∈ reads := by
    obtain ⟨r, hr, hnot⟩ := hleft
    rcases hidle r hr with rfl | ⟨d, rfl⟩
    · exact absurd rfl hnot
    · exact ⟨d, hr⟩
  -- The first wait to end is over now, or time jumps to its end.
  classical
  have hfirst := Nat.find_spec hwaiting
  by_cases hdue : Nat.find hwaiting ≤ now
  · obtain ⟨i, hr⟩ := List.mem_iff_getElem?.mp hfirst
    obtain ⟨p, hp⟩ := hproxy hr
    exact ⟨_, _, _, .finish hr hdue hp, rfl⟩
  · refine ⟨_, _, _, .jump ?_ hfirst, rfl⟩
    intro r hr
    rcases hidle r hr with hjoined | ⟨d, rfl⟩
    · exact .inl hjoined
    · have hle := Nat.find_min' hwaiting hr
      exact .inr ⟨d, rfl, by omega, hle⟩

/-- All tasks can be joined. -/
theorem Executes.exists_joined {n : Nat} (h : Executes c t service m n P)
    (hstage : P.stage = .lookups reads ended) :
    ∃ n Q reads ended, Executes c t service m n Q ∧ Q.stage = .lookups reads ended ∧
      ∀ r ∈ reads, r = .joined := by
  -- As long as a lookup has not been taken note of there is a step, and every step takes effort.
  induction heffort : lookupEffort P.now reads using Nat.strongRecOn
    generalizing n P reads ended with
  | ind effort ih =>
    by_cases hjoined : ∀ r ∈ reads, r = .joined
    · exact ⟨n, P, reads, ended, h, hstage, hjoined⟩
    · push Not at hjoined
      obtain ⟨Q, reads', ended', hstep, hstage'⟩ :=
        (h.looking reads ended hstage).exists_step service hstage hjoined
      obtain ⟨reads₀, ended₀, hstage₀, hless⟩ := hstep.effort_lt hstage'
      cases hstage.symm.trans hstage₀
      exact ih _ (heffort ▸ hless) (.step h hstep) hstage' rfl

end Rollup.Verify
