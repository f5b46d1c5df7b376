/-
Requests to a chain node, and how its answers are read.

A request is a method with parameters. Numbers are answered as quantities in a
string, or as JSON integers, and have to fit into the width of what they are for;
bytes are answered in hexadecimal, or as an array of numbers. An answer of any
other form is a permanent failure. Every request runs under the policy of its
client.
-/
import Rollup.Chain.Calculator
import Rollup.Chain.FeeSlots
import Rollup.Json.Value

set_option autoImplicit false

namespace Rollup.Chain

/-- What can be asked of a node. -/
inductive Request where
  /-- How many transactions an account has sent, as of the latest block. -/
  | nonce (account : Address)
  | gasPrice
  | chainId
  /-- A slot of an account, as of the latest block. -/
  | storage (account : Address) (slot : Word)
  /-- The result of a call to a contract, on top of the pending block. -/
  | call (contract : Address) (input : Bytes)
  deriving DecidableEq

namespace Request

/-- The method of a request. -/
def method : Request → String
  | .nonce _ => "eth_getTransactionCount"
  | .gasPrice => "eth_gasPrice"
  | .chainId => "eth_chainId"
  | .storage _ _ => "eth_getStorageAt"
  | .call _ _ => "eth_call"

/-- The parameters of a request. -/
def parameters : Request → Json.Value
  | .nonce account => .array [.string account.lower, .string "latest"]
  | .gasPrice => .null
  | .chainId => .null
  | .storage account slot => .array [.string account.lower, .string slot.quantity, .string "latest"]
  | .call contract input =>
    .array [.object [("input", .string ("0x" ++ Hex.encode input)), ("to", .string contract.lower)],
      .string "pending"]

end Request

/-! ## Answers -/

/-- What a node answers. -/
inductive Reply where
  | result (value : Json.Value)
  /-- An error response. -/
  | error (code : Int) (message : String) (data : Option String)
  /-- No answer at all. -/
  | failed (cause : TransportError)

/-- The value of a reply, read by a reader of results. -/
def Reply.read {α : Type} (reader : Json.Value → Option α) : Reply → Except ChainError α
  | .result value =>
    match reader value with
    | some a => .ok a
    | none => .error (.transport .deserialization)
  | .error code message data => .error (.transport (.response code message data))
  | .failed cause => .error (.transport cause)

/-- Reads a number of at most `bits` bits. -/
def readNumber (bits : Nat) : Json.Value → Option Nat
  | .string content => Quantity.read bits content.toList
  | .number text =>
    match Text.readDecimal? text with
    | some n => if n < 2 ^ 64 ∧ n < 2 ^ bits then some n else none
    | none => none
  | _ => none

/-- Reads a number of a byte. -/
def readByte : Json.Value → Option UInt8
  | .number text => ((Text.readDecimal? text).filter (· < 2 ^ 8)).map UInt8.ofNat
  | _ => none

/-- Reads bytes: a string of them, or an array of one number each. -/
def readBytes : Json.Value → Option Bytes
  | .string content => (Hex.decode content.toList).toOption
  | .array items => items.mapM readByte
  | _ => none

/-! ## The client -/

/-- A client. -/
structure Client where
  policy : Policy
  deriving DecidableEq

/-- A node: by request and number of the attempt, when it replies and what. -/
abbrev Node := Request → Nat → Wait.Delay × Reply

/-- A reply with a number of nanoseconds stands for one behind a timer that is set for them. -/
instance : Coe (Nat × Reply) (Wait.Delay × Reply) := ⟨fun (nanos, reply) => (nanos, reply)⟩

namespace Client

/-- The course of a request to a node. -/
def ask {α : Type} (c : Client) (node : Node) (r : Request) (reader : Json.Value → Option α) :
    Run α :=
  c.policy.run r.method fun n =>
    let (delay, reply) := node r n
    ⟨delay, reply.read reader⟩

/-- Asks how many transactions an account has sent. -/
def nonce (c : Client) (node : Node) (account : Address) : Run UInt64 :=
  c.ask node (.nonce account) fun v => (readNumber 64 v).map UInt64.ofNat

/-- Asks for the gas price. -/
def gasPrice (c : Client) (node : Node) : Run (BitVec 128) :=
  c.ask node .gasPrice fun v => (readNumber 128 v).map (BitVec.ofNat 128)

/-- Asks for the number of the chain. -/
def chainId (c : Client) (node : Node) : Run UInt64 :=
  c.ask node .chainId fun v => (readNumber 64 v).map UInt64.ofNat

/-- Asks for a slot of an account. -/
def storage (c : Client) (node : Node) (account : Address) (slot : Word) : Run Word :=
  c.ask node (.storage account slot) fun v => (readNumber 256 v).map (BitVec.ofNat 256)

/-- Asks for the fee parameters from a moment on. -/
def parameters (c : Client) (node : Node) (start : Wait.Moment) : Fetch :=
  fetchParameters (c.storage node FeeSlots.contract) start

/-- What is read from a call of the fee calculator. -/
def calculatorResult : String := "getL1FeeEcotone return value"

/-- Asks a fee calculator for the data fee of an encoded transaction. -/
def dataFee (c : Client) (node : Node) (calculator : Address) (data : Bytes) (p : Fee.Parameters) :
    Run Word :=
  let run := c.ask node (.call calculator (Calculator.call data p)) readBytes
  let answer := match run.answer with
    | .error e => .error e
    | .ok output =>
      -- The output is read only once it is there, so an output that is too short is not asked for
      -- again.
      match Calculator.result? output with
      | some fee => .ok fee
      | none => .error (.decode calculatorResult)
  ⟨answer, run.starts, run.waits⟩

/-- A client in words. -/
def text (c : Client) : String := Text.someFields "RpcChainClient" [("policy", c.policy.text)]

end Client

end Rollup.Chain
