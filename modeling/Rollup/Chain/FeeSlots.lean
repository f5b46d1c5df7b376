/-
The fee parameters as a contract on the chain keeps them.

Both base fees have a storage slot of their own. The two scalars are 32-bit numbers
inside one slot, next to a sequence number which does not matter here.

The three slots are read at the same time by one task, and the first read to fail
decides. In every turn of the task each read that is not over goes on as far as it
can, one after the other. Which one comes first goes round from turn to turn, and the
room for waits that end in a turn is shared by all three. A read that fails without
any waiting keeps those behind it from being started.
-/
import Rollup.Address
import Rollup.Chain.Retry
import Rollup.Fee.Parameters

set_option autoImplicit false

namespace Rollup.Chain

/-! ## The layout of the slots -/

namespace FeeSlots

/-- The contract with the parameters of the current block. -/
def contract : Address := .ofNat 0x4200000000000000000000000000000000000015

/-- The slot of the base fee. -/
def l1BaseFee : Word := 1

/-- The slot of the blob base fee. -/
def blobBaseFee : Word := 7

/-- The slot of the two scalars. -/
def scalars : Word := 3

/-- Where the scalar of the base fee begins within its slot. -/
def baseFeeScalarOffset : Nat := 16

/-- Where the scalar of the blob base fee begins within its slot. -/
def blobBaseFeeScalarOffset : Nat := 20

/-- The number that the four bytes at an offset within a slot spell. -/
def scalar (slot : Word) (offset : Nat) : Word := .ofBytes ((slot.bytes.drop offset).take 4)

/-- The parameters that the contents of the slots of the base fee, of the blob base fee and of
the scalars give. -/
def decode (base blob packed : Word) : Fee.Parameters :=
  ⟨base, blob, scalar packed baseFeeScalarOffset, scalar packed blobBaseFeeScalarOffset⟩

/-- The slots in the order in which they are read. -/
def all : List Word := [l1BaseFee, blobBaseFee, scalars]

end FeeSlots

/-! ## Reads at the same time -/

/-- A read on its way. -/
structure Reading where
  run : Run Word
  /-- What is still to be waited for; nothing, once the read is over. -/
  waits : List Nat
  /-- When the first of the waits ends. -/
  due : Nat

/-- A read that begins at a moment. -/
def Reading.ofRun (run : Run Word) (now : Nat) : Reading :=
  ⟨run, run.waits, now + run.waits.headD 0⟩

/-- When the attempts began that the read has made so far. Between any two of them there is a pause,
so these are the ones that begin within what has been waited for. -/
def Reading.begun (r : Reading) : List Nat :=
  r.run.starts.filter (· ≤ Wait.total r.run.waits - Wait.total r.waits)

/-- Goes on from wait to wait until one takes longer, or until there is no room left in the turn.
Returns the room that is left, what is still to be waited for and until when, and whether the task
has to give way. -/
def goOn (now : Nat) : (room due : Nat) → (waits : List Nat) → Nat × List Nat × Nat × Bool
  | room, due, [] => (room, [], due, false)
  | 0, due, wait :: waits => (0, wait :: waits, due, true)
  | room + 1, due, wait :: waits =>
    if due ≤ now then goOn now room (now + waits.headD 0) waits
    else (room + 1, wait :: waits, due, false)

/-- The three reads in the middle of a turn. -/
structure Turn where
  /-- The reads that have been started, in order. -/
  reads : List Reading
  moment : Wait.Moment
  /-- Whether a read found no room left. -/
  givesWay : Bool

/-- What came of reads at the same time. -/
structure Fetch where
  answer : Except ChainError Fee.Parameters
  /-- The reads that were started, as they stand then. -/
  reads : List Reading
  /-- Where the task stands then. -/
  finish : Wait.Moment

/-- How many reads were started. -/
def Fetch.started (f : Fetch) : Nat := f.reads.length

/-- The attempts that the reads have made, in the order of time: when each one began, and for which
slot. -/
def Fetch.attempts (f : Fetch) : List (Nat × Word) :=
  ((FeeSlots.all.zip f.reads).flatMap fun (slot, r) => r.begun.map (·, slot)).mergeSort
    fun a b => a.1 ≤ b.1

/-- The end of the reads by a failure. -/
def Turn.fail (t : Turn) (e : ChainError) : Fetch := ⟨.error e, t.reads, t.moment⟩

/-- Lets the read of a number go on; a failure ends all of them. -/
def Turn.advance (t : Turn) (i : Nat) : Except Fetch Turn :=
  match t.reads[i]? with
  | none => .ok t
  | some r =>
    let (room, waits, due, givesWay) := goOn t.moment.now t.moment.room r.due r.waits
    let t : Turn :=
      ⟨t.reads.set i ⟨r.run, waits, due⟩, ⟨t.moment.now, room⟩, t.givesWay || givesWay⟩
    match waits, r.run.answer with
    -- The first read that fails ends them all.
    | [], .error e => .error (t.fail e)
    | _, _ => .ok t

/-- Starts a read. -/
def Turn.begin (t : Turn) (run : Run Word) : Except Fetch Turn :=
  Turn.advance { t with reads := t.reads ++ [.ofRun run t.moment.now] } t.reads.length

/-- The numbers of the reads in the order of a turn, the first turn being number zero. -/
def inTurn (count turn : Nat) : List Nat := (List.range count).map fun k => (k + turn) % count

/-- When the next of the reads has waited long enough; nothing, if all are over. -/
def Turn.next? (t : Turn) : Option Nat :=
  ((t.reads.filter fun r => !r.waits.isEmpty).map (·.due)).min?

/-- Goes on turn by turn until all reads are over or one has failed. In every turn a wait ends, so
that their number is fuel enough. -/
def Turn.run (answer : Except ChainError Fee.Parameters) : (fuel turn : Nat) → Turn → Fetch
  | 0, _, t => ⟨answer, t.reads, t.moment⟩
  | fuel + 1, turn, t =>
    match t.next? with
    | none => ⟨answer, t.reads, t.moment⟩
    | some due =>
      -- A read that gave way goes on before any time passes.
      let now := if t.givesWay then t.moment.now else due
      let next : Turn := ⟨t.reads, ⟨now, Wait.patience⟩, false⟩
      match (inTurn t.reads.length turn).foldlM Turn.advance next with
      | .error fetch => fetch
      | .ok t => t.run answer fuel (turn + 1)

/-- Reads the parameters from a moment on. `read` gives the course of the read of a slot. -/
def fetchParameters (read : Word → Run Word) (start : Wait.Moment) : Fetch :=
  let runs := FeeSlots.all.map read
  let answer := do
    -- The answer, should none of the reads fail.
    let base ← (read FeeSlots.l1BaseFee).answer
    let blob ← (read FeeSlots.blobBaseFee).answer
    let packed ← (read FeeSlots.scalars).answer
    .ok (FeeSlots.decode base blob packed)
  match runs.foldlM Turn.begin ⟨[], start, false⟩ with
  | .error fetch => fetch
  | .ok t => t.run answer ((runs.flatMap (·.waits)).length + 2) 1

end Rollup.Chain
