/-
Legacy transactions and their canonical bytes.

A transaction is encoded as the list of its nonce, gas price, gas limit,
recipient, value and calldata, and, if it is bound to a chain, of the chain id
and two empty strings where the signature would be. A chain id of zero binds to no chain.

`encode` writes the header first, from a length that `payloadLength` adds up
field by field. `item` is the same list as an item of the recursive encoding.
-/
import Rollup.Address
import Rollup.Rlp

set_option autoImplicit false

namespace Rollup

/-- Where a transaction goes. -/
inductive Recipient where
  /-- Nowhere: it creates a contract. -/
  | create
  /-- To an account. -/
  | call (address : Address)
  deriving DecidableEq, Repr

/-- The bytes of a recipient; none for a contract creation. -/
def Recipient.bytes : Recipient → Bytes
  | .create => []
  | .call address => address.bytes

/-- A fully specified legacy transaction. -/
structure Transaction where
  nonce : UInt64
  /-- In wei. -/
  gasPrice : Word
  gasLimit : UInt64
  recipient : Recipient
  /-- In wei. -/
  value : Word
  data : Bytes
  /-- The chain that the transaction is valid on; zero for any. -/
  chainId : UInt64
  deriving DecidableEq

namespace Transaction

/-- Whether the transaction is bound to a chain. -/
def isBound (tx : Transaction) : Bool := tx.chainId ≠ 0

/-! ## The list of fields -/

/-- The fields that bind a transaction to a chain. -/
def bindingItems (tx : Transaction) : List Rlp.Item :=
  if tx.isBound then [.ofNat tx.chainId.toNat, .string [], .string []] else []

/-- The transaction as a nested item. -/
def item (tx : Transaction) : Rlp.Item :=
  .list ([.ofNat tx.nonce.toNat, .ofNat tx.gasPrice.toNat, .ofNat tx.gasLimit.toNat,
    .string tx.recipient.bytes, .ofNat tx.value.toNat, .string tx.data] ++ tx.bindingItems)

/-! ## Lengths before bytes -/

/-- How many bytes the recipient takes. -/
def recipientLength : Recipient → Nat
  | .create => 1
  | .call _ => 21

/-- How many bytes the fields take that bind a transaction to a chain. -/
def bindingLength (tx : Transaction) : Nat :=
  if tx.isBound then Rlp.natLength tx.chainId.toNat + 2 * Rlp.natLength 0 else 0

/-- How many bytes all fields take, without the header in front of them. -/
def payloadLength (tx : Transaction) : Nat :=
  Rlp.natLength tx.nonce.toNat + Rlp.natLength tx.gasPrice.toNat +
    Rlp.natLength tx.gasLimit.toNat + recipientLength tx.recipient + Rlp.natLength tx.value.toNat +
    Rlp.stringLength tx.data + tx.bindingLength

/-- How many bytes the transaction takes. -/
def length (tx : Transaction) : Nat :=
  tx.payloadLength + Rlp.headerLength tx.payloadLength

/-! ## Bytes -/

/-- The fields that bind a transaction to a chain, encoded. -/
def bindingBytes (tx : Transaction) : Bytes :=
  if tx.isBound then Rlp.encodeNat tx.chainId.toNat ++ Rlp.encodeNat 0 ++ Rlp.encodeNat 0
  else []

/-- The canonical bytes of a transaction. -/
def encode (tx : Transaction) : Bytes :=
  Rlp.header Rlp.listOffset tx.payloadLength ++ Rlp.encodeNat tx.nonce.toNat ++
    Rlp.encodeNat tx.gasPrice.toNat ++ Rlp.encodeNat tx.gasLimit.toNat ++
    Rlp.encodeString tx.recipient.bytes ++ Rlp.encodeNat tx.value.toNat ++
    Rlp.encodeString tx.data ++ tx.bindingBytes

end Transaction

end Rollup
