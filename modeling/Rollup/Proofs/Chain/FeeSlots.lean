/-
Reading the fee parameters from the chain.

Three reads share a task. Every read ends at the moment at which it would end alone, because the
task goes on with it as soon as its next wait is over (`goOn_wentOn`). For that it does not matter
which read has its turn first, nor in which of several turns at the same moment it has room. So a
read that fails ends all of them before any that would fail later can be over, and when none has
failed and nothing is left to be waited for, all of them have succeeded.

`Turn.Sound` says of every read on its way when it will end, `Turn.Polled` what a part of a turn
does to all of them. The turns are bounded by the waits that are left: each one ends a wait, unless
the turn before it ended so many that it had to give way (`Turn.effort`).
-/
import Rollup.Chain.Memory
import Rollup.Proofs.Lists
import Rollup.Proofs.Pauses
import Rollup.Proofs.Word

set_option autoImplicit false

namespace Rollup.Chain

/-! ## One read -/

/-- A read that has begun at `start`, as it stands at a moment: when its next wait ends, and when it
will have ended itself. -/
structure Reading.Timed (start now : Nat) (r : Reading) : Prop where
  sum : r.due + Wait.total r.waits.tail = start + r.run.finish
  pending : r.waits ≠ [] → now ≤ r.due
  ended : r.waits = [] → r.due ≤ now

/-- The first wait and all behind it take the whole time. -/
theorem headD_add_total_tail (waits : List Nat) :
    waits.headD 0 + Wait.total waits.tail = Wait.total waits := by
  cases waits <;> rfl

/-- A read that begins now has all of its waits before it. -/
theorem Reading.timed_ofRun (run : Run Word) (now : Nat) : (ofRun run now).Timed now now := by
  refine ⟨?_, ?_, ?_⟩
  · show now + run.waits.headD 0 + Wait.total run.waits.tail = now + Wait.total run.waits
    rw [Nat.add_assoc, headD_add_total_tail]
  · intro _
    exact Nat.le_add_right _ _
  · intro hover
    simp only [ofRun] at hover ⊢
    simp [hover]

namespace Reading.Timed

variable {start now : Nat} {r : Reading}

/-- A read with something left to wait for is not over. -/
theorem le_finish (h : r.Timed start now) (hpending : r.waits ≠ []) :
    now ≤ start + r.run.finish := by
  have hdue := h.pending hpending
  have hsum := h.sum
  omega

/-- The last wait of a read ends when the read does. -/
theorem due_eq (h : r.Timed start now) (hover : r.waits = []) : r.due = start + r.run.finish := by
  have hsum := h.sum
  rwa [hover] at hsum

end Reading.Timed

/-- What going on from wait to wait comes to. -/
structure WentOn (now room due : Nat) (waits : List Nat) (out : Nat × List Nat × Nat × Bool) :
    Prop where
  sum : out.2.2.1 + Wait.total out.2.1.tail = due + Wait.total waits.tail
  pending : out.2.1 ≠ [] → now ≤ out.2.2.1
  ended : out.2.1 = [] → out.2.2.1 = if waits = [] then due else now
  /-- Every wait that ends takes a place of the room. -/
  count : waits.length + out.1 = out.2.1.length + room
  room_le : out.1 ≤ room
  givesWay : out.2.2.2 = true → out.1 = 0
  /-- If no place was taken, then nothing has ended because the next wait takes longer. -/
  idle : out.1 = room → 0 < room → out.2.1 = waits ∧ out.2.2.1 = due ∧ (waits ≠ [] → now < due)

/-- Going on keeps the time at which the read will end, and pays for every wait with a place of the
room. -/
theorem goOn_wentOn {now : Nat} (room due : Nat) (waits : List Nat)
    (hpending : waits ≠ [] → now ≤ due) : WentOn now room due waits (goOn now room due waits) := by
  -- The induction is on the waits, of which each one that is over begins the next one at this
  -- moment.
  fun_induction goOn now room due waits with
  | case1 room due =>
    refine ⟨rfl, nofun, fun _ => rfl, rfl, Nat.le_refl _, nofun, ?_⟩
    intro _ _
    exact ⟨rfl, rfl, nofun⟩
  | case2 due wait waits =>
    refine ⟨rfl, hpending, nofun, rfl, Nat.le_refl _, fun _ => rfl, ?_⟩
    intro _ hroom
    exact absurd hroom (Nat.lt_irrefl 0)
  | case3 room due wait waits hle ih =>
    have hdue : due = now := Nat.le_antisymm hle (hpending (List.cons_ne_nil _ _))
    have h := ih (fun _ => Nat.le_add_right _ _)
    have hcount := h.count
    have hroom := h.room_le
    refine ⟨?_, h.pending, ?_, ?_, ?_, h.givesWay, ?_⟩
    · -- The wait that is over was to end at this moment, so that no time is lost.
      rw [h.sum, Nat.add_assoc, headD_add_total_tail, hdue]
      rfl
    · intro hover
      rw [h.ended hover, if_neg (List.cons_ne_nil _ _)]
      split
      next hnil => rw [hnil]; rfl
      next => rfl
    · rw [List.length_cons]
      omega
    · omega
    · intro heq
      omega
  | case4 room due wait waits hgt =>
    refine ⟨rfl, hpending, nofun, rfl, Nat.le_refl _, nofun, ?_⟩
    intro _ _
    exact ⟨rfl, rfl, fun _ => Nat.lt_of_not_le hgt⟩

/-! ## Reads on their way -/

variable {read : Word → Run Word} {start : Nat} {begun rest : List Word} {t t' t'' : Turn}

/-- The reads of these slots have begun and those of the rest have not. -/
structure Turn.Sound (read : Word → Run Word) (start : Nat) (begun rest : List Word) (t : Turn) :
    Prop where
  runs : t.reads.map (·.run) = begun.map read
  timed : ∀ r ∈ t.reads, r.Timed start t.moment.now
  later : ∀ slot ∈ rest, t.moment.now ≤ start + (read slot).finish

/-- No read that is over has failed. -/
def Turn.NoneFailed (t : Turn) : Prop :=
  ∀ r ∈ t.reads, r.waits = [] → ∃ w, r.run.answer = .ok w

/-- The read of a slot fails, and no other one that fails is over before it. -/
def FailsFirst (read : Word → Run Word) (slots : List Word) (slot : Word) (e : ChainError) : Prop :=
  slot ∈ slots ∧ (read slot).answer = .error e ∧
    ∀ other ∈ slots, ∀ e', (read other).answer = .error e' →
      (read slot).finish ≤ (read other).finish

/-- The reads have been ended by the first failure, at the moment of it. -/
def Fetch.Fails (read : Word → Run Word) (start : Nat) (begun rest : List Word) (f : Fetch) : Prop :=
  f.reads.map (·.run) = begun.map read ∧ ∃ slot e, FailsFirst read (begun ++ rest) slot e ∧
    f.answer = .error e ∧ f.finish.now = start + (read slot).finish

/-- How many waits are left. -/
def Turn.left (t : Turn) : Nat := (t.reads.map (·.waits.length)).sum

/-- What a turn of the reads of these numbers does. -/
structure Turn.Polled (numbers : List Nat) (t t' : Turn) : Prop where
  now : t'.moment.now = t.moment.now
  room_le : t'.moment.room ≤ t.moment.room
  count : t.left + t'.moment.room = t'.left + t.moment.room
  givesWay : t'.givesWay = true → t.givesWay = true ∨ t'.moment.room = 0
  idle : t'.moment.room = t.moment.room → 0 < t.moment.room → t'.reads = t.reads ∧
    ∀ i ∈ numbers, ∀ r, t.reads[i]? = some r → r.waits ≠ [] → t.moment.now < r.due

namespace Turn

theorem Polled.refl (t : Turn) : Polled [] t t :=
  ⟨rfl, Nat.le_refl _, rfl, .inl, fun _ _ => ⟨rfl, nofun⟩⟩

/-- Parts of a turn make a longer part. -/
theorem Polled.trans {is js : List Nat} (h : Polled is t t') (h' : Polled js t' t'') :
    Polled (is ++ js) t t'' := by
  have hroom := h.room_le
  have hroom' := h'.room_le
  have hcount := h.count
  have hcount' := h'.count
  refine ⟨h'.now.trans h.now, by omega, by omega, ?_, ?_⟩
  · intro hway
    rcases h'.givesWay hway with hway | hzero
    · rcases h.givesWay hway with hway | hzero
      · exact .inl hway
      · exact .inr (by omega)
    · exact .inr hzero
  · -- If no room has been taken by both parts, then by neither of them.
    intro heq hpos
    obtain ⟨hreads, hdue⟩ := h.idle (by omega) hpos
    obtain ⟨hreads', hdue'⟩ := h'.idle (by omega) (by omega)
    refine ⟨hreads'.trans hreads, ?_⟩
    intro i hi r hr hpending
    rcases List.mem_append.mp hi with hi | hi
    · exact hdue i hi r hr hpending
    · rw [← h.now]
      exact hdue' i hi r (by rw [hreads, hr]) hpending

/-- A read that is on its way is the read of some slot. -/
theorem exists_slot (h : t.Sound read start begun rest) {r : Reading} (hr : r ∈ t.reads) :
    ∃ slot ∈ begun, read slot = r.run := by
  have hmem : r.run ∈ begun.map read := by
    rw [← h.runs]
    exact List.mem_map_of_mem hr
  exact List.mem_map.mp hmem

/-- A slot whose read has begun has a read on its way. -/
theorem exists_reading (h : t.Sound read start begun rest) {slot : Word} (hslot : slot ∈ begun) :
    ∃ r ∈ t.reads, r.run = read slot := by
  have hmem : read slot ∈ t.reads.map (·.run) := by
    rw [h.runs]
    exact List.mem_map_of_mem hslot
  exact List.mem_map.mp hmem

/-- A read that is just over with a failure ends all of them, as the first one to fail. -/
theorem Sound.fail (h : t.Sound read start begun rest) {r : Reading} {e : ChainError}
    (hr : r ∈ t.reads) (hdue : r.due = t.moment.now) (hover : r.waits = [])
    (he : r.run.answer = .error e)
    (hothers : ∀ q ∈ t.reads, q.run ≠ r.run → q.waits = [] → ∃ w, q.run.answer = .ok w) :
    (t.fail e).Fails read start begun rest := by
  obtain ⟨slot, hslot, hread⟩ := exists_slot h hr
  have hfinish : t.moment.now = start + (read slot).finish := by
    rw [hread, ← hdue, (h.timed r hr).due_eq hover]
  refine ⟨h.runs, slot, e, ⟨List.mem_append_left _ hslot, hread ▸ he, ?_⟩, rfl, hfinish⟩
  intro other hother e' he'
  rcases List.mem_append.mp hother with hother | hother
  · obtain ⟨q, hq, hqread⟩ := exists_reading h hother
    -- One that is not over will not be over before now, and one that is over has not failed.
    by_cases hsame : q.run = r.run
    · apply Nat.le_of_eq
      rw [hread, ← hqread, hsame]
    · have hpending : q.waits ≠ [] := by
        intro hnil
        obtain ⟨w, hw⟩ := hothers q hq hsame hnil
        rw [hqread, he'] at hw
        cases hw
      have hle := (h.timed q hq).le_finish hpending
      rw [hqread] at hle
      omega
  · -- A read that has not begun cannot be over before now.
    have hle := h.later other hother
    omega

/-- A read of some number goes on and comes to this. -/
def goOnWith (t : Turn) (i : Nat) (r : Reading) (out : Nat × List Nat × Nat × Bool) : Turn :=
  ⟨t.reads.set i ⟨r.run, out.2.1, out.2.2.1⟩, ⟨t.moment.now, out.1⟩, t.givesWay || out.2.2.2⟩

/-- A read goes on, and then only its own failure matters. -/
theorem advance_eq {i : Nat} {r : Reading} (hr : t.reads[i]? = some r) :
    t.advance i =
      let next := t.goOnWith i r (goOn t.moment.now t.moment.room r.due r.waits)
      match (goOn t.moment.now t.moment.room r.due r.waits).2.1, r.run.answer with
      | [], .error e => .error (next.fail e)
      | _, _ => .ok next := by
  unfold advance
  rw [hr]
  rfl

section

variable {i : Nat} {r : Reading} {out : Nat × List Nat × Nat × Bool}

/-- What going on does to one read leaves all reads in time. -/
theorem Sound.goOnWith (h : t.Sound read start begun rest) (hr : t.reads[i]? = some r)
    (hout : WentOn t.moment.now t.moment.room r.due r.waits out) :
    (t.goOnWith i r out).Sound read start begun rest := by
  have htimed := h.timed r (List.mem_of_getElem? hr)
  refine ⟨?_, ?_, h.later⟩
  · -- The course of the read is still the same.
    rw [← h.runs]
    apply List.ext_getElem?
    intro j
    rw [List.getElem?_map, List.getElem?_map, Turn.goOnWith]
    by_cases hij : i = j
    · subst hij
      rw [List.getElem?_set_self (List.getElem?_eq_some_iff.mp hr).1, hr]
      rfl
    · rw [List.getElem?_set_ne hij]
  · intro q hq
    -- The other reads are where they were.
    rcases List.mem_or_eq_of_mem_set hq with hq | rfl
    · exact h.timed q hq
    · refine ⟨hout.sum.trans htimed.sum, hout.pending, ?_⟩
      intro hover
      show out.2.2.1 ≤ t.moment.now
      rw [hout.ended hover]
      split
      next hnil => exact htimed.ended hnil
      next => exact Nat.le_refl _

/-- What going on does to one read is a part of a turn. -/
theorem Polled.goOnWith (hr : t.reads[i]? = some r)
    (hout : WentOn t.moment.now t.moment.room r.due r.waits out) :
    Polled [i] t (t.goOnWith i r out) := by
  refine ⟨rfl, hout.room_le, ?_, ?_, ?_⟩
  · have hleft := sum_map_set ⟨r.run, out.2.1, out.2.2.1⟩ (fun q : Reading => q.waits.length) hr
    have hcount := hout.count
    show (t.reads.map _).sum + out.1 = ((t.reads.set i _).map _).sum + t.moment.room
    dsimp only at hleft
    omega
  · intro hway
    rcases Bool.or_eq_true _ _ ▸ hway with hway | hway
    · exact .inl hway
    · exact .inr (hout.givesWay hway)
  · intro heq hpos
    -- If no place was taken, then the read is put back as it was.
    obtain ⟨hwaits, hdue, hlater⟩ := hout.idle heq hpos
    constructor
    · obtain ⟨hlt, hget⟩ := List.getElem?_eq_some_iff.mp hr
      rw [Turn.goOnWith, hwaits, hdue, ← hget]
      exact List.set_getElem_self hlt
    · intro j hj q hq
      obtain rfl := List.mem_singleton.mp hj
      obtain rfl : r = q := Option.some.inj (hr.symm.trans hq)
      exact hlater

/-- **One read has its turn.** If it is over then with a failure, that ends all reads. Otherwise
none has failed still. -/
theorem Sound.advance (h : t.Sound read start begun rest) (hr : t.reads[i]? = some r)
    (hself : r.waits = [] → r.due = t.moment.now ∨ ∃ w, r.run.answer = .ok w)
    (hothers : ∀ j q, j ≠ i → t.reads[j]? = some q → q.waits = [] →
      ∃ w, q.run.answer = .ok w) :
    (∃ t', t.advance i = .ok t' ∧ t'.Sound read start begun rest ∧ t'.NoneFailed ∧
      Polled [i] t t') ∨ ∃ f, t.advance i = .error f ∧ f.Fails read start begun rest := by
  have hout := goOn_wentOn t.moment.room r.due r.waits
    (h.timed r (List.mem_of_getElem? hr)).pending
  rw [advance_eq hr]
  -- From here on it only counts what going on has come to.
  generalize goOn t.moment.now t.moment.room r.due r.waits = out at hout ⊢
  dsimp only
  have hsound := h.goOnWith hr hout
  have hothers' : ∀ q ∈ (t.goOnWith i r out).reads, q ≠ ⟨r.run, out.2.1, out.2.2.1⟩ →
      q.waits = [] → ∃ w, q.run.answer = .ok w := by
    intro q hq hne hover
    obtain ⟨j, hj⟩ := List.mem_iff_getElem?.mp hq
    rcases getElem?_set_cases hj with ⟨-, rfl⟩ | ⟨hij, hj⟩
    · exact absurd rfl hne
    · exact hothers j q (Ne.symm hij) hj hover
  split
  next e hover he =>
    -- The read is over with a failure: it ends now, or else it had ended before with no failure.
    refine .inr ⟨_, rfl, hsound.fail (r := ⟨r.run, out.2.1, out.2.2.1⟩) ?_ ?_ hover he ?_⟩
    · exact List.mem_of_getElem? (List.getElem?_set_self (List.getElem?_eq_some_iff.mp hr).1)
    · show out.2.2.1 = t.moment.now
      rw [hout.ended hover]
      split
      next hnil =>
        rcases hself hnil with hdue | ⟨w, hw⟩
        · exact hdue
        · rw [he] at hw
          cases hw
      next => rfl
    · intro q hq hrun
      apply hothers' q hq
      rintro rfl
      exact hrun rfl
  next hnot =>
    -- The read waits on, or has an answer.
    refine .inl ⟨_, rfl, hsound, ?_, Polled.goOnWith hr hout⟩
    intro q hq hover
    by_cases hself : q = ⟨r.run, out.2.1, out.2.2.1⟩
    · subst hself
      cases hanswer : r.run.answer with
      | ok w => exact ⟨w, rfl⟩
      | error e => exact absurd hanswer (hnot e hover)
    · exact hothers' q hq hself hover

end

/-! ## Turns -/

/-- **A turn of some reads**: it is over, or the first failure has ended all of them. -/
theorem Sound.polls (h : t.Sound read start begun rest) (hnone : t.NoneFailed)
    (numbers : List Nat) :
    (∃ t', numbers.foldlM Turn.advance t = .ok t' ∧ t'.Sound read start begun rest ∧ t'.NoneFailed ∧
      Polled numbers t t') ∨
    ∃ f, numbers.foldlM Turn.advance t = .error f ∧ f.Fails read start begun rest := by
  induction numbers generalizing t with
  | nil => exact .inl ⟨t, rfl, h, hnone, .refl t⟩
  | cons i numbers ih =>
    rw [List.foldlM_cons]
    -- Numbers of no read do nothing.
    have hadvance : (∃ t', t.advance i = .ok t' ∧ t'.Sound read start begun rest ∧
        t'.NoneFailed ∧ Polled [i] t t') ∨
        ∃ f, t.advance i = .error f ∧ f.Fails read start begun rest := by
      cases hr : t.reads[i]? with
      | none =>
        refine .inl ⟨t, ?_, h, hnone, rfl, Nat.le_refl _, rfl, .inl, fun _ _ => ⟨rfl, ?_⟩⟩
        · rw [Turn.advance, hr]
        · intro j hj r hr'
          rw [List.mem_singleton.mp hj, hr] at hr'
          cases hr'
      | some r =>
        apply h.advance hr
        · intro hover
          exact .inr (hnone r (List.mem_of_getElem? hr) hover)
        · intro j q _ hq
          exact hnone q (List.mem_of_getElem? hq)
    -- A failure ends the turn, so that the numbers behind it have no part in it.
    rcases hadvance with ⟨t', ht', h', hnone', hpolled⟩ | ⟨f, hf, hfails⟩
    · rw [ht']
      rcases ih h' hnone' with ⟨t'', ht'', h'', hnone'', hpolled'⟩ | ⟨f, hf, hfails⟩
      · exact .inl ⟨t'', ht'', h'', hnone'', hpolled.trans hpolled'⟩
      · exact .inr ⟨f, hf, hfails⟩
    · rw [hf]
      exact .inr ⟨f, rfl, hfails⟩

/-- A read that begins has its first turn at once. -/
theorem Sound.begin {slot : Word} (h : t.Sound read start begun (slot :: rest))
    (hnone : t.NoneFailed) (hnow : t.moment.now = start) :
    (∃ t', t.begin (read slot) = .ok t' ∧ t'.Sound read start (begun ++ [slot]) rest ∧
      t'.NoneFailed ∧ t'.moment.now = start ∧ t'.left ≤ t.left + (read slot).waits.length) ∨
    ∃ f, t.begin (read slot) = .error f ∧ f.Fails read start (begun ++ [slot]) rest := by
  let next : Turn := { t with reads := t.reads ++ [.ofRun (read slot) t.moment.now] }
  have hlast : next.reads[t.reads.length]? = some (.ofRun (read slot) t.moment.now) := by
    simp [next]
  have hnext : next.Sound read start (begun ++ [slot]) rest := by
    refine ⟨?_, ?_, fun other hother => h.later other (List.mem_cons_of_mem _ hother)⟩
    · show (t.reads ++ [_]).map _ = _
      rw [List.map_append, h.runs, List.map_append]
      rfl
    · intro r hr
      rcases List.mem_append.mp hr with hr | hr
      · exact h.timed r hr
      · rw [List.mem_singleton.mp hr, ← hnow]
        exact Reading.timed_ofRun _ _
  -- It may be over at once, and that is at the moment at which it began.
  have hcases := hnext.advance hlast (fun hover => .inl ?_) ?_
  · rcases hcases with ⟨t', ht', h', hnone', hpolled⟩ | ⟨f, hf, hfails⟩
    · refine .inl ⟨t', ht', h', hnone', hpolled.now.trans hnow, ?_⟩
      have hleft : next.left = t.left + (read slot).waits.length := by
        show ((t.reads ++ [Reading.ofRun (read slot) t.moment.now]).map _).sum = _
        rw [List.map_append, List.sum_append]
        rfl
      have hcount := hpolled.count
      have hroom := hpolled.room_le
      omega
    · exact .inr ⟨f, hf, hfails⟩
  · have hnil : (read slot).waits = [] := hover
    simp [Reading.ofRun, hnil, next]
  · intro j q hj hq
    -- All reads but the last one have been there before.
    have hmem : q ∈ t.reads := by
      have hlt : j < t.reads.length := by
        have hlength := (List.getElem?_eq_some_iff.mp hq).1
        simp only [next, List.length_append, List.length_singleton] at hlength
        omega
      rw [show next.reads = t.reads ++ _ from rfl, List.getElem?_append_left hlt] at hq
      exact List.mem_of_getElem? hq
    exact hnone q hmem

/-- All reads are started one after the other, up to the first one that fails at once. -/
theorem Sound.beginAll (h : t.Sound read start begun rest) (hnone : t.NoneFailed)
    (hnow : t.moment.now = start) :
    (∃ t', (rest.map read).foldlM Turn.begin t = .ok t' ∧ t'.Sound read start (begun ++ rest) [] ∧
      t'.NoneFailed ∧ t'.left ≤ t.left + ((rest.map read).flatMap (·.waits)).length) ∨
    ∃ f slots others, (rest.map read).foldlM Turn.begin t = .error f ∧ rest = slots ++ others ∧
      slots ≠ [] ∧ f.Fails read start (begun ++ slots) others := by
  induction rest generalizing begun t with
  | nil =>
    rw [List.append_nil]
    exact .inl ⟨t, rfl, h, hnone, Nat.le_refl _⟩
  | cons slot rest ih =>
    rw [List.map_cons, List.foldlM_cons]
    -- The slots behind a failure at once are the ones whose reads never begin.
    rcases h.begin hnone hnow with ⟨t', ht', h', hnone', hnow', hleft⟩ | ⟨f, hf, hfails⟩
    · rw [ht']
      rcases ih h' hnone' hnow' with ⟨t'', ht'', h'', hnone'', hleft'⟩ |
        ⟨f, slots, others, hf, rfl, hslots, hfails⟩
      · refine .inl ⟨t'', ht'', ?_, hnone'', ?_⟩
        · rwa [List.append_assoc] at h''
        · rw [List.flatMap_cons, List.length_append]
          omega
      · refine .inr ⟨f, slot :: slots, others, hf, rfl, List.cons_ne_nil _ _, ?_⟩
        rwa [List.append_assoc] at hfails
    · rw [hf]
      exact .inr ⟨f, [slot], rest, rfl, rfl, List.cons_ne_nil _ _, hfails⟩

/-- How many more turns there can be. One in which no wait ends follows only on a turn that had to
give way, and that ended more than one. -/
def effort (t : Turn) : Nat := t.left + if t.givesWay then 1 else 0

/-- Every read has its place in every turn. -/
theorem mem_inTurn {count i : Nat} (turn : Nat) (h : i < count) : i ∈ inTurn count turn := by
  refine List.mem_map.mpr ⟨(i + (count - turn % count)) % count, ?_, ?_⟩
  · exact List.mem_range.mpr (Nat.mod_lt _ (by omega))
  · have hlt : turn % count < count := Nat.mod_lt _ (by omega)
    rw [Nat.mod_add_mod, ← Nat.add_mod_mod, Nat.add_assoc, Nat.sub_add_cancel (by omega),
      Nat.add_mod_right, Nat.mod_eq_of_lt h]

/-- There is no next turn if no read waits. -/
theorem next?_eq_none_iff : t.next? = none ↔ ∀ r ∈ t.reads, r.waits = [] := by
  simp [next?, List.min?_eq_none_iff]

/-- The next turn is when the first wait ends. -/
theorem next?_eq_some {due : Nat} (h : t.next? = some due) :
    (∃ r ∈ t.reads, r.waits ≠ [] ∧ r.due = due) ∧
      ∀ r ∈ t.reads, r.waits ≠ [] → due ≤ r.due := by
  rw [next?, List.min?_eq_some_iff] at h
  simp only [List.mem_map, List.mem_filter, Bool.not_eq_true', List.isEmpty_eq_false_iff] at h
  obtain ⟨⟨r, ⟨hr, hpending⟩, hdue⟩, hmin⟩ := h
  exact ⟨⟨r, hr, hpending, hdue⟩, fun q hq hq' => hmin q.due ⟨q, ⟨hq, hq'⟩, rfl⟩⟩

/-- The reads have their next turn when a wait is over, or at once if one found no room. -/
def following (t : Turn) (due : Nat) : Turn :=
  ⟨t.reads, ⟨if t.givesWay then t.moment.now else due, Wait.patience⟩, false⟩

/-- The moment of the next turn is not beyond any wait. -/
theorem Sound.following (h : t.Sound read start begun []) {due : Nat} (hdue : t.next? = some due) :
    (t.following due).Sound read start begun [] := by
  obtain ⟨⟨q, hq, hpending, hqdue⟩, hmin⟩ := next?_eq_some hdue
  have hle : t.moment.now ≤ due := hqdue ▸ (h.timed q hq).pending hpending
  refine ⟨h.runs, ?_, nofun⟩
  intro r hr
  have htimed := h.timed r hr
  refine ⟨htimed.sum, ?_, ?_⟩
  · -- No wait ends before the earliest one.
    intro hpending
    unfold Turn.following
    dsimp only
    split
    · exact htimed.pending hpending
    · exact hmin r hr hpending
  · intro hover
    unfold Turn.following
    dsimp only
    split
    · exact htimed.ended hover
    · exact Nat.le_trans (htimed.ended hover) hle

/-- **Every turn leaves less to do.** -/
theorem Polled.effort_lt {due turn : Nat} (hdue : t.next? = some due)
    (h : Polled (inTurn t.reads.length turn) (t.following due) t') : t'.effort < t.effort := by
  have hcount : t.left + t'.moment.room = t'.left + 128 := h.count
  have hroom : t'.moment.room ≤ 128 := h.room_le
  have hway : t'.givesWay = true → t'.moment.room = 0 := by
    intro hway
    rcases h.givesWay hway with hway | hzero
    · cases hway
    · exact hzero
  unfold effort
  -- After giving way the turn may end no wait, but then it does not give way again.
  by_cases hgave : t.givesWay = true
  · rw [if_pos hgave]
    split
    next hway' =>
      have hzero := hway hway'
      omega
    next => omega
  · -- The next wait to end is over at the moment of the turn, so that some wait ends in it.
    have hlt : t'.moment.room ≠ 128 := by
      intro heq
      obtain ⟨⟨r, hr, hpending, hrdue⟩, -⟩ := next?_eq_some hdue
      obtain ⟨i, hi⟩ := List.mem_iff_getElem?.mp hr
      have hlt := (h.idle heq (Nat.zero_lt_succ 127)).2 i
        (mem_inTurn turn (List.getElem?_eq_some_iff.mp hi).1) r hi hpending
      simp only [following, hgave, hrdue] at hlt
      exact absurd hlt (by simp)
    rw [if_neg hgave]
    split
    next hway' =>
      have hzero := hway hway'
      omega
    next => omega

end Turn

/-- What reads at the same time come to: the first failure to be reached, or all of them succeed. -/
inductive Fetch.Joins (read : Word → Run Word) (start : Nat) (slots : List Word)
    (answer : Except ChainError Fee.Parameters) (f : Fetch) : Prop where
  | failed {begun rest : List Word} : slots = begun ++ rest → begun ≠ [] →
    f.Fails read start begun rest → f.Joins read start slots answer
  | succeeded : f.reads.map (·.run) = slots.map read →
    (∀ slot ∈ slots, ∃ w, (read slot).answer = .ok w) → f.answer = answer →
    f.Joins read start slots answer

namespace Turn

/-- When no read waits and none has failed, all have succeeded. -/
theorem Sound.joins_of_over {slots : List Word} (h : t.Sound read start slots [])
    (hnone : t.NoneFailed) (hover : ∀ r ∈ t.reads, r.waits = [])
    (answer : Except ChainError Fee.Parameters) :
    (⟨answer, t.reads, t.moment⟩ : Fetch).Joins read start slots answer := by
  refine .succeeded h.runs ?_ rfl
  intro slot hslot
  obtain ⟨r, hr, hread⟩ := exists_reading h hslot
  obtain ⟨w, hw⟩ := hnone r hr (hover r hr)
  exact ⟨w, hread ▸ hw⟩

/-- **Turn by turn the reads come to an end**, all together or by the first failure. -/
theorem Sound.run_joins {slots : List Word} (h : t.Sound read start slots [])
    (hnone : t.NoneFailed) (hslots : slots ≠ []) (answer : Except ChainError Fee.Parameters)
    {fuel : Nat} (hfuel : t.effort ≤ fuel) (turn : Nat) :
    (t.run answer fuel turn).Joins read start slots answer := by
  induction fuel generalizing t turn with
  | zero =>
    refine h.joins_of_over hnone ?_ answer
    intro r hr
    -- Without anything left to do no read waits.
    have hzero : t.left = 0 := by
      unfold effort at hfuel
      omega
    have hlength : r.waits.length = 0 :=
      List.sum_eq_zero_iff_forall_eq_nat.mp hzero _ (List.mem_map_of_mem hr)
    exact List.length_eq_zero_iff.mp hlength
  | succ fuel ih =>
    unfold Turn.run
    cases hdue : t.next? with
    | none => exact h.joins_of_over hnone (next?_eq_none_iff.mp hdue) answer
    | some due =>
      have hturn := (h.following hdue).polls hnone (inTurn t.reads.length turn)
      unfold Turn.following at hturn
      rcases hturn with ⟨t', ht', h', hnone', hpolled⟩ | ⟨f, hf, hfails⟩
      · simp only [ht']
        -- The fuel is enough for the turns that are left.
        have hlt := hpolled.effort_lt hdue
        exact ih h' hnone' (by omega) (turn + 1)
      · simp only [hf]
        exact .failed (List.append_nil slots).symm hslots hfails

end Turn

/-- **The three reads together** end with the first failure, or with the parameters that all of them
give. -/
theorem fetchParameters_joins (read : Word → Run Word) (start : Wait.Moment) :
    (fetchParameters read start).Joins read start.now FeeSlots.all (do
      let base ← (read FeeSlots.l1BaseFee).answer
      let blob ← (read FeeSlots.blobBaseFee).answer
      let packed ← (read FeeSlots.scalars).answer
      .ok (FeeSlots.decode base blob packed)) := by
  -- At first nothing has begun, and all three slots are to come.
  have hstart : (⟨[], start, false⟩ : Turn).Sound read start.now [] FeeSlots.all :=
    ⟨rfl, nofun, fun _ _ => Nat.le_add_right _ _⟩
  unfold fetchParameters
  rcases hstart.beginAll nofun rfl with ⟨t, ht, h, hnone, hleft⟩ |
    ⟨f, slots, others, hf, hslots, hne, hfails⟩
  · simp only [ht]
    refine h.run_joins hnone (by decide) _ ?_ 1
    have hzero : (⟨[], start, false⟩ : Turn).left = 0 := rfl
    unfold Turn.effort
    split <;> omega
  · simp only [hf]
    exact .failed hslots hne hfails

/-! ## Attempts -/

namespace Fetch

variable {f : Fetch} {slot : Word}

/-- The attempts are those of all reads, in some order. -/
theorem perm_attempts (f : Fetch) : (f.attempts.map (·.2)).Perm
    ((FeeSlots.all.zip f.reads).flatMap fun i => i.2.begun.map fun _ => i.1) := by
  have hperm := (List.mergeSort_perm ((FeeSlots.all.zip f.reads).flatMap fun i =>
    i.2.begun.map (·, i.1)) fun a b => a.1 ≤ b.1).map (·.2)
  rw [List.map_flatMap] at hperm
  simp only [List.map_map, Function.comp_def] at hperm
  exact hperm

/-- The slots that are asked for are those whose reads have been started. -/
theorem mem_attempts_iff (h : ∀ r ∈ f.reads, r.begun ≠ []) :
    slot ∈ f.attempts.map (·.2) ↔ slot ∈ FeeSlots.all.take f.started := by
  rw [f.perm_attempts.mem_iff, started, ← map_fst_zip, List.mem_flatMap, List.mem_map]
  constructor
  · rintro ⟨i, hi, hslot⟩
    obtain ⟨_, _, hslot⟩ := List.mem_map.mp hslot
    exact ⟨i, hi, hslot⟩
  · rintro ⟨i, hi, hslot⟩
    obtain ⟨start, hstart⟩ := List.exists_mem_of_ne_nil _ (h i.2 (List.of_mem_zip hi).2)
    exact ⟨i, hi, List.mem_map.mpr ⟨start, hstart, hslot⟩⟩

/-- A slot is asked for at most as often as its own read asks. -/
theorem count_attempts_le {most : Nat} (h : ∀ r ∈ f.reads, r.begun.length ≤ most) (slot : Word) :
    (f.attempts.map (·.2)).count slot ≤ most := by
  rw [f.perm_attempts.count_eq]
  apply count_flatMap_le
  · intro i hi
    calc _ ≤ (i.2.begun.map fun _ => i.1).length := List.count_le_length
      _ = i.2.begun.length := List.length_map _
      _ ≤ most := h i.2 (List.of_mem_zip hi).2
  · -- No two reads are of the same slot.
    have hnodup : ((FeeSlots.all.zip f.reads).map Prod.fst).Nodup := by
      rw [map_fst_zip]
      exact (List.nodup_iff_pairwise_ne.mpr (by decide)).sublist (List.take_sublist _ _)
    refine (List.pairwise_map.mp hnodup).imp fun {i j} hne hi hj => ?_
    obtain ⟨_, _, hi⟩ := List.mem_map.mp hi
    obtain ⟨_, _, hj⟩ := List.mem_map.mp hj
    exact hne (hi.trans hj.symm)

/-- The reads that have begun are those of the first slots: one at least, and all of them if there
is an answer. -/
theorem Joins.started {slots : List Word} {answer : Except ChainError Fee.Parameters}
    (h : f.Joins read start slots answer) (hslots : slots ≠ []) :
    f.reads.map (·.run) = (slots.take f.started).map read ∧ 1 ≤ f.started ∧
      ∀ p, f.answer = .ok p → f.started = slots.length := by
  have hlength {begun : List Word} (hruns : f.reads.map (·.run) = begun.map read) :
      f.started = begun.length := by
    have hlength := congrArg List.length hruns
    rwa [List.length_map, List.length_map] at hlength
  cases h with
  | failed hsplit hbegun hfails =>
    obtain ⟨hruns, slot, e, -, hanswer, -⟩ := hfails
    rw [hlength hruns, hsplit, List.take_left]
    refine ⟨hruns, List.length_pos_iff.mpr hbegun, ?_⟩
    intro p hp
    rw [hanswer] at hp
    exact nomatch hp
  -- Without a failure the reads of all slots have begun.
  | succeeded hruns =>
    rw [hlength hruns, List.take_length]
    exact ⟨hruns, List.length_pos_iff.mpr hslots, fun _ _ => rfl⟩

end Fetch

/-- A read that has begun has made its first attempt, and none that is not among those of its
run. -/
theorem Reading.begun_bounds {r : Reading} {most : Nat}
    (h : 0 ∈ r.run.starts ∧ r.run.starts.length ≤ most) :
    r.begun ≠ [] ∧ r.begun.length ≤ most := by
  constructor
  · exact List.ne_nil_of_mem (List.mem_filter.mpr ⟨h.1, decide_eq_true (Nat.zero_le _)⟩)
  · exact Nat.le_trans (List.length_filter_le _ _) h.2

/-! ## The slot of the scalars -/

namespace FeeSlots

/-- A scalar is what its four bytes spell. -/
theorem toNat_scalar (packed : Word) (offset : Nat) :
    (scalar packed offset).toNat = Bytes.value ((packed.bytes.drop offset).take 4) := by
  apply Word.toNat_ofBytes
  have hlength := List.length_take_le 4 (packed.bytes.drop offset)
  omega

/-- A scalar is the number in its own field, whatever stands around it. -/
theorem toNat_scalar_of_bytes {packed : Word} {front behind : Bytes} (n : UInt32)
    (h : packed.bytes = front ++ (Bytes.bigEndian 4 n.toNat ++ behind)) :
    (scalar packed front.length).toNat = n.toNat := by
  rw [toNat_scalar, h, List.drop_left, List.take_left' (Bytes.length_bigEndian 4 n.toNat),
    Bytes.value_bigEndian]
  exact Nat.mod_eq_of_lt n.toNat_lt

end FeeSlots

/-! ## The parameters -/

section

variable {read : Word → Run Word} {base blob packed : Word}

/-- Three words are decoded to the parameters. -/
theorem fetchParameters_of_ok (hbase : (read FeeSlots.l1BaseFee).answer = .ok base)
    (hblob : (read FeeSlots.blobBaseFee).answer = .ok blob)
    (hpacked : (read FeeSlots.scalars).answer = .ok packed) (start : Wait.Moment) :
    (fetchParameters read start).answer = .ok (FeeSlots.decode base blob packed) := by
  cases fetchParameters_joins read start with
  | failed hslots _ hfails =>
    -- The read that failed would be one of the three, and none of them does.
    obtain ⟨-, slot, e, ⟨hmem, he, -⟩, -, -⟩ := hfails
    rw [← hslots] at hmem
    simp only [FeeSlots.all, List.mem_cons, List.not_mem_nil, or_false] at hmem
    rcases hmem with rfl | rfl | rfl
    · simp [hbase] at he
    · simp [hblob] at he
    · simp [hpacked] at he
  | succeeded _ _ hanswer =>
    rw [hanswer, hbase, hblob, hpacked]
    rfl

/-- If some read fails, then the first failure is the answer. -/
theorem fetchParameters_of_error {slot : Word} {e : ChainError} (hslot : slot ∈ FeeSlots.all)
    (he : (read slot).answer = .error e) (start : Wait.Moment) :
    ∃ slot e, FailsFirst read FeeSlots.all slot e ∧
      (fetchParameters read start).answer = .error e ∧
      (fetchParameters read start).finish.now = start.now + (read slot).finish := by
  cases fetchParameters_joins read start with
  | failed hslots _ hfails =>
    obtain ⟨-, hfails⟩ := hfails
    rwa [← hslots] at hfails
  | succeeded _ hall =>
    obtain ⟨w, hw⟩ := hall slot hslot
    rw [he] at hw
    cases hw

end

/-- On a chain in memory the parameters are in three words of one contract, unless reads of its
storage fail. How long they take does not matter. -/
theorem Memory.readParameters_answer (m : Memory) (start : Wait.Moment) :
    (m.readParameters start).1.answer =
      match m.failures.lookup FeeSlots.contract with
      | some failure => .error (failure.error FeeSlots.contract)
      | none => .ok (FeeSlots.decode (m.word FeeSlots.contract FeeSlots.l1BaseFee)
          (m.word FeeSlots.contract FeeSlots.blobBaseFee)
          (m.word FeeSlots.contract FeeSlots.scalars)) := by
  have hanswer (slot : Word) : (m.storageRun FeeSlots.contract slot).answer =
      m.storageAnswer FeeSlots.contract slot := rfl
  show (fetchParameters (m.storageRun FeeSlots.contract) start).answer = _
  unfold Memory.storageAnswer at hanswer
  -- All three reads are of one account, so that all of them fail or none does.
  cases hfailure : m.failures.lookup FeeSlots.contract with
  | some failure =>
    simp only [hfailure] at hanswer
    obtain ⟨slot, e, ⟨-, he, -⟩, hfetch, -⟩ :=
      fetchParameters_of_error (List.mem_cons_self) (hanswer FeeSlots.l1BaseFee) start
    rw [hanswer, Except.error.injEq] at he
    rw [hfetch, ← he]
  | none =>
    simp only [hfailure] at hanswer
    exact fetchParameters_of_ok (hanswer _) (hanswer _) (hanswer _) start

/-- **Reading the fee parameters.** Whatever the three reads wait for, and in whatever order they
are over, the parameters are what the slots hold if all reads succeed: the base fees are whole
words, and the scalars are the numbers in two fields of the third word, whatever stands around
these. If some read fails, then there are no parameters, but the failure of one that no other
failing read is over before, at the moment when it is over. On a chain in memory nothing but these
three words and the failures of this contract matters. -/
theorem fetchParameters_exact (read : Word → Run Word) (start : Wait.Moment) :
    (∀ base blob packed, (read 1).answer = .ok base → (read 7).answer = .ok blob →
      (read 3).answer = .ok packed →
      ∃ p, (fetchParameters read start).answer = .ok p ∧
        p.l1BaseFee.toNat = Bytes.value base.bytes ∧ p.blobBaseFee.toNat = Bytes.value blob.bytes ∧
        p.baseFeeScalar.toNat = Bytes.value ((packed.bytes.drop 16).take 4) ∧
        p.blobBaseFeeScalar.toNat = Bytes.value ((packed.bytes.drop 20).take 4) ∧
        ∀ (front : Bytes) (s b : UInt32) (sequence : UInt64), front.length = 16 →
          packed.bytes = front ++ (Bytes.bigEndian 4 s.toNat ++ (Bytes.bigEndian 4 b.toNat ++
            Bytes.bigEndian 8 sequence.toNat)) →
          p.baseFeeScalar.toNat = s.toNat ∧ p.blobBaseFeeScalar.toNat = b.toNat) ∧
    (∀ slot ∈ [1, 7, 3], ∀ e, (read slot).answer = .error e →
      ∃ slot e, FailsFirst read [1, 7, 3] slot e ∧
        (fetchParameters read start).answer = .error e ∧
        (fetchParameters read start).finish.now = start.now + (read slot).finish) ∧
    ∀ (m m' : Memory) (start' : Wait.Moment),
      m.failures.lookup FeeSlots.contract = m'.failures.lookup FeeSlots.contract →
      (∀ slot ∈ [1, 7, 3], m.word FeeSlots.contract slot = m'.word FeeSlots.contract slot) →
      (m.readParameters start).1.answer = (m'.readParameters start').1.answer := by
  refine ⟨?_, ?_, ?_⟩
  · intro base blob packed hbase hblob hpacked
    refine ⟨_, fetchParameters_of_ok hbase hblob hpacked start, (Word.value_bytes base).symm,
      (Word.value_bytes blob).symm, FeeSlots.toNat_scalar packed 16,
      FeeSlots.toNat_scalar packed 20, ?_⟩
    intro front s b sequence hfront hbytes
    constructor
    · have hs := FeeSlots.toNat_scalar_of_bytes s hbytes
      rwa [hfront] at hs
    · -- In front of the second field stands the first one as well.
      rw [← List.append_assoc] at hbytes
      have hb := FeeSlots.toNat_scalar_of_bytes b hbytes
      rwa [List.length_append, hfront, Bytes.length_bigEndian] at hb
  · intro slot hslot e he
    exact fetchParameters_of_error hslot he start
  · intro m m' start' hfailures hwords
    have hbase : m.word FeeSlots.contract FeeSlots.l1BaseFee =
        m'.word FeeSlots.contract FeeSlots.l1BaseFee := hwords 1 (by simp)
    have hblob : m.word FeeSlots.contract FeeSlots.blobBaseFee =
        m'.word FeeSlots.contract FeeSlots.blobBaseFee := hwords 7 (by simp)
    have hpacked : m.word FeeSlots.contract FeeSlots.scalars =
        m'.word FeeSlots.contract FeeSlots.scalars := hwords 3 (by simp)
    rw [Memory.readParameters_answer, Memory.readParameters_answer, hfailures, hbase, hblob,
      hpacked]

/-- The read that fails first is not the one that began first. -/
example : (fetchParameters (fun slot =>
    if slot = 1 then ⟨.error (.unavailable "late"), [0], [20]⟩
    else if slot = 7 then ⟨.error (.unavailable "early"), [0], [10]⟩
    else ⟨.ok 0, [0], [5]⟩) .start).answer = .error (.unavailable "early") := rfl

end Rollup.Chain
