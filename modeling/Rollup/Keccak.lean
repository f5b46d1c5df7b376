/-
The hash function Keccak-256.

The state is a square of five by five lanes of 64 bits, kept as a list in which
lane `(x, y)` has the index `x + 5 * y`. A round mixes columns (`theta`), rotates
and moves lanes (`rhoPi`), combines neighbours in a row (`chi`) and breaks the
symmetry of the first lane (`iota`). The sponge takes blocks of 136 bytes, the
last of them padded with the bits `1 0* 1`.

Every layer is written by what it puts at an index, so that it can be read, and
reasoned about, one lane at a time.
-/
import Rollup.Bytes

set_option autoImplicit false

namespace Rollup.Keccak

/-- The lanes of the state. -/
abbrev State := List UInt64

/-- The lane at an index. -/
def lane (s : State) (i : Nat) : UInt64 := s.getD i 0

/-- The state with given lanes. -/
def build (f : Nat → UInt64) : State := (List.range 25).map f

/-- Turns a lane left by some bits. -/
def rotate (v : UInt64) (n : Nat) : UInt64 :=
  v <<< UInt64.ofNat (n % 64) ||| v >>> UInt64.ofNat ((64 - n % 64) % 64)

/-- The parity of each column. -/
def parity (s : State) : State :=
  (List.range 5).map fun x =>
    lane s x ^^^ lane s (x + 5) ^^^ lane s (x + 10) ^^^ lane s (x + 15) ^^^ lane s (x + 20)

/-- Adds the parities of the two neighbouring columns to every lane. -/
def theta (s : State) : State :=
  let c := parity s
  build fun i => lane s i ^^^ lane c ((i + 4) % 5) ^^^ rotate (lane c ((i + 1) % 5)) 1

/-- By how much the lane at an index is turned. -/
def rotations : List Nat :=
  [0, 1, 62, 28, 27, 36, 44, 6, 55, 20, 3, 10, 43, 25, 39, 41, 45, 15, 21, 8, 18, 2, 61, 56, 14]

/-- Which lane moves to `(x, y)`: the one at `(x + 3 * y, x)`. -/
def origin (i : Nat) : Nat := (i % 5 + 3 * (i / 5)) % 5 + 5 * (i % 5)

/-- Turns every lane and moves it to its new place. -/
def rhoPi (s : State) : State :=
  build fun i => rotate (lane s (origin i)) (rotations.getD (origin i) 0)

/-- Combines every lane with the next two in its row. -/
def chi (s : State) : State :=
  build fun i =>
    let row := 5 * (i / 5)
    lane s i ^^^ (~~~(lane s (row + (i + 1) % 5)) &&& lane s (row + (i + 2) % 5))

/-- Adds a constant to the first lane. -/
def iota (constant : UInt64) : State → State
  | [] => []
  | first :: rest => (first ^^^ constant) :: rest

/-- The constants of the 24 rounds. -/
def constants : List UInt64 :=
  [0x0000000000000001, 0x0000000000008082, 0x800000000000808A, 0x8000000080008000,
   0x000000000000808B, 0x0000000080000001, 0x8000000080008081, 0x8000000000008009,
   0x000000000000008A, 0x0000000000000088, 0x0000000080008009, 0x000000008000000A,
   0x000000008000808B, 0x800000000000008B, 0x8000000000008089, 0x8000000000008003,
   0x8000000000008002, 0x8000000000000080, 0x000000000000800A, 0x800000008000000A,
   0x8000000080008081, 0x8000000000008080, 0x0000000080000001, 0x8000000080008008]

/-- One round. -/
def round (s : State) (constant : UInt64) : State := iota constant (chi (rhoPi (theta s)))

/-- All rounds. -/
def permute (s : State) : State := constants.foldl round s

/-- The number of bytes that one block holds. -/
def rate : Nat := 136

/-- Fills the last block up with the bits `1 0* 1`. -/
def pad (message : Bytes) : Bytes :=
  let free := rate - message.length % rate
  if free = 1 then message ++ [0x81]
  else message ++ 0x01 :: (List.replicate (free - 2) 0 ++ [0x80])

/-- The lane that eight bytes spell, the first byte the least significant. -/
def readLane (bytes : Bytes) : UInt64 := UInt64.ofNat (Bytes.value bytes.reverse)

/-- The eight bytes of a lane, the least significant first. -/
def writeLane (v : UInt64) : Bytes := (Bytes.bigEndian 8 v.toNat).reverse

/-- Adds a block to the state and mixes. -/
def absorb (s : State) (block : Bytes) : State :=
  permute (build fun i => lane s i ^^^ readLane ((block.drop (8 * i)).take 8))

/-- The blocks of a padded message. -/
def blocks (padded : Bytes) : List Bytes :=
  (List.range (padded.length / rate)).map fun i => (padded.drop (rate * i)).take rate

/-- The 32 bytes of the hash of a message. -/
def hash (message : Bytes) : Bytes :=
  let s := (blocks (pad message)).foldl absorb (List.replicate 25 0)
  (s.take 4).flatMap writeLane

end Rollup.Keccak
