/-
Estimating the data fee of a transaction.

The steps stand in a fixed order: connect, ask for what is missing, encode the
transaction, get the fee parameters, estimate, print, and at last compare with a fee
calculator on the chain. The first step that fails ends the run; nothing is printed
before the estimate stands. A calculator that computes another fee is no failure.
-/
import Rollup.CommandLine.EstimateCommand
import Rollup.CommandLine.Session
import Rollup.Transaction.Draft

set_option autoImplicit false

namespace Rollup.CommandLine

/-- Why there is no estimate. -/
inductive EstimateFailure where
  | encoding (cause : Transaction.DraftError)
  | parameter (cause : Fee.ParameterError)
  | fee (cause : Fee.EstimateError)
  | chain (cause : ChainError)
  /-- Something was neither given nor could it be asked for. -/
  | missing (what hint : String)

/-- What is wrong, in words. -/
def EstimateFailure.message : EstimateFailure → String
  | .encoding cause => cause.message
  | .parameter cause => cause.message
  | .fee cause => cause.message
  | .chain cause => cause.message
  | .missing what hint => "missing " ++ what ++ ": " ++ hint

/-- A client with the node that it talks to. -/
structure Connection where
  client : Chain.Client
  node : Chain.Node

/-- An action of the command. -/
abbrev Estimating (α : Type) := Action EstimateFailure α

namespace EstimateCommand

/-- Connects to the node, if one is given. -/
def connect (c : EstimateCommand) (world : World) : Estimating (Option Connection) :=
  match c.node.url with
  | none => Action.ofExcept (.ok none)
  | some url =>
    match Chain.Endpoint.connect url with
    | .ok endpoint => Action.ofExcept (.ok (some ⟨⟨c.node.policy⟩, world.node endpoint⟩))
    | .error e => Action.fail (.chain e)

/-- The failure for something that a node could tell. -/
def missing (what : String) : EstimateFailure :=
  .missing what "pass it explicitly or set --rpc-url"

/-- The nonce. -/
def findNonce (c : EstimateCommand) (connection : Option Connection) : Estimating UInt64 :=
  match c.nonce, connection, c.sender with
  | some nonce, _, _ => Action.ofExcept (.ok nonce)
  | none, some k, some sender =>
    Action.send (.nonce sender) (k.client.nonce k.node sender) .chain
  | _, _, _ =>
    Action.fail (.missing "--nonce" "pass it explicitly or set --from and --rpc-url")

/-- The gas price. -/
def findGasPrice (c : EstimateCommand) (connection : Option Connection) : Estimating Word :=
  match c.gasPrice, connection with
  | some price, _ => Action.ofExcept (.ok price)
  | none, some k => do
    let price ← Action.send .gasPrice (k.client.gasPrice k.node) .chain
    Action.ofExcept (.ok (price.setWidth 256))
  | none, none => Action.fail (missing "--gas-price")

/-- The number of the chain. -/
def findChainId (c : EstimateCommand) (connection : Option Connection) : Estimating UInt64 :=
  match c.chainId, connection with
  | some id, _ => Action.ofExcept (.ok id)
  | none, some k => Action.send .chainId (k.client.chainId k.node) .chain
  | none, none => Action.fail (missing "--chain-id")

/-- The transaction, with what had to be asked for. -/
def findDraft (c : EstimateCommand) (connection : Option Connection) :
    Estimating Transaction.Draft := do
  let nonce ← c.findNonce connection
  let gasPrice ← c.findGasPrice connection
  let chainId ← c.findChainId connection
  Action.ofExcept (.ok ⟨nonce, gasPrice, c.gasLimit, c.recipient, c.value, c.data, chainId⟩)

/-- Reads the fee parameters from the node. -/
def askParameters (k : Connection) : Estimating Fee.Parameters :=
  let fetch := k.client.parameters k.node .start
  let requests := fetch.attempts.map fun (_, slot) =>
    Chain.Request.storage Chain.FeeSlots.contract slot
  ExceptT.mk fun t => (fetch.answer.mapError .chain, { t with requests := t.requests ++ requests })

/-- The fee parameters. -/
def findParameters (c : EstimateCommand) (connection : Option Connection) :
    Estimating Fee.Parameters :=
  if c.fees.live then
    match connection with
    | some k => askParameters k
    | none => Action.fail (.missing "--rpc-url" "--live-params reads the L1Block predeploy")
  else Action.ofExcept (c.fees.parameters.mapError .parameter)

/-- The lines that show an estimate. -/
def report (bytes : Bytes) (e : Fee.Estimate) : List String :=
  ["Serialized transaction: 0x" ++ Hex.encode bytes,
    "Compressed size: " ++ Text.decimal e.size.toNat,
    "L1 fee in wei: " ++ e.wei.decimal,
    "L1 fee in ETH: " ++ e.ether,
    "L1 fee in fiat: " ++ Decimal.plain.text e.fiat ++ " (at " ++ Decimal.plain.text e.price ++
      " per ETH)"]

/-- Compares with the fee calculator, if one is given. -/
def compare (c : EstimateCommand) (connection : Option Connection) (bytes : Bytes)
    (p : Fee.Parameters) : Estimating Unit :=
  match c.oracle, connection with
  | none, _ => Action.ofExcept (.ok ())
  | some oracle, some k => do
    let fee ← Action.send (.call oracle (Chain.Calculator.call bytes p))
      (k.client.dataFee k.node oracle bytes p) .chain
    Action.print ("Oracle L1 fee in wei: " ++ fee.decimal)
  | some _, none =>
    Action.fail (.missing "--rpc-url" "--oracle calls the calculator contract")

/-- The whole command. -/
def run (c : EstimateCommand) (world : World) : Estimating Unit := do
  let connection ← c.connect world
  let draft ← c.findDraft connection
  let bytes ← Action.ofExcept (draft.encode.mapError .encoding)
  let p ← c.findParameters connection
  let estimate ← Action.ofExcept
    ((Fee.estimate c.priceSource world.files bytes p).mapError .fee)
  (report bytes estimate).forM Action.print
  c.compare connection bytes p

end EstimateCommand

end Rollup.CommandLine
