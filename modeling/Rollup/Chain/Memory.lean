/-
A chain that is kept in memory.

Storage that was never written is zero, and an account that is not known has sent
nothing. Of several values for one thing the last one counts. Every read of the
storage of an address can be delayed, and made to fail.
-/
import Rollup.Chain.FeeSlots

set_option autoImplicit false

namespace Rollup.Chain

/-- How the storage of an address fails to be read. -/
inductive StorageFailure where
  | transient
  | permanent
  deriving DecidableEq, Repr

/-- The error of a read that fails like this. -/
def StorageFailure.error (a : Address) : StorageFailure → ChainError
  | .transient => .unavailable ("storage of " ++ a.checksum ++ " is unavailable")
  | .permanent => .rejected ("storage of " ++ a.checksum ++ " cannot be read")

/-- The state of a chain; of two entries for one key the first one counts. -/
structure Memory where
  chainId : UInt64
  /-- In wei. -/
  gasPrice : BitVec 128
  /-- How many transactions each account has sent. -/
  nonces : List (Address × UInt64)
  /-- The written words, by account and slot. -/
  storage : List ((Address × Word) × Word)
  /-- How long a read of the storage of an account takes. -/
  latencies : List (Address × Duration)
  /-- The accounts whose storage fails to be read. -/
  failures : List (Address × StorageFailure)
  /-- How many storage reads were begun. -/
  reads : Nat

namespace Memory

/-- An empty chain. -/
def ofChainId (chainId : UInt64) : Memory := ⟨chainId, 0, [], [], [], [], 0⟩

/-! ## Setting up -/

/-- Sets the gas price. -/
def setGasPrice (m : Memory) (price : BitVec 128) : Memory := { m with gasPrice := price }

/-- Sets how many transactions an account has sent. -/
def setNonce (m : Memory) (a : Address) (nonce : UInt64) : Memory :=
  { m with nonces := (a, nonce) :: m.nonces }

/-- Writes a word into a slot of an account. -/
def setStorage (m : Memory) (a : Address) (slot value : Word) : Memory :=
  { m with storage := ((a, slot), value) :: m.storage }

/-- Delays the reads of the storage of an account. -/
def setLatency (m : Memory) (a : Address) (latency : Duration) : Memory :=
  { m with latencies := (a, latency) :: m.latencies }

/-- Makes the reads of the storage of an account fail. -/
def setFailure (m : Memory) (a : Address) (failure : StorageFailure) : Memory :=
  { m with failures := (a, failure) :: m.failures }

/-! ## Reading -/

/-- How many transactions an account has sent. -/
def nonce (m : Memory) (a : Address) : UInt64 := (m.nonces.lookup a).getD 0

/-- The word in a slot of an account. -/
def word (m : Memory) (a : Address) (slot : Word) : Word := (m.storage.lookup (a, slot)).getD 0

/-- What a read of the storage of an account has to wait for. -/
def waits (m : Memory) (a : Address) : List Nat :=
  ((m.latencies.lookup a).map fun latency => Wait.span latency.nanos).toList

/-- What a read of a slot answers. -/
def storageAnswer (m : Memory) (a : Address) (slot : Word) : Except ChainError Word :=
  match m.failures.lookup a with
  | some failure => .error (failure.error a)
  | none => .ok (m.word a slot)

/-- The course of a read of a slot. -/
def storageRun (m : Memory) (a : Address) (slot : Word) : Run Word :=
  ⟨m.storageAnswer a slot, [0], m.waits a⟩

/-- Begins a read of a slot. -/
def readStorage (m : Memory) (a : Address) (slot : Word) : Run Word × Memory :=
  (m.storageRun a slot, { m with reads := m.reads + 1 })

/-- Reads the fee parameters from a moment on. -/
def readParameters (m : Memory) (start : Wait.Moment) : Fetch × Memory :=
  let fetch := fetchParameters (m.storageRun FeeSlots.contract) start
  (fetch, { m with reads := m.reads + fetch.started })

end Memory

end Rollup.Chain
