/-
The command that estimates the data fee of a transaction, as it is given.

Nonce, gas price and number of the chain may be left out if a node can be asked for
them. The fee parameters are read from the node, or given one by one; the price of
an ether is given, or stands in a file. These exclude each other.
-/
import Rollup.CommandLine.Settings
import Rollup.Fee.Estimate

set_option autoImplicit false

namespace Rollup.CommandLine

/-- Fee parameters, as far as they are given. -/
structure FeeFlags where
  /-- Whether they are to be read from the node. -/
  live : Bool
  l1BaseFee : Option String
  blobBaseFee : Option String
  baseFeeScalar : Option String
  blobBaseFeeScalar : Option String
  deriving DecidableEq, Repr

namespace FeeFlags

/-- No parameters. -/
def none : FeeFlags := ⟨false, Option.none, Option.none, Option.none, Option.none⟩

/-- What is given for a field. -/
def get (f : FeeFlags) : Fee.Field → Option String
  | .l1BaseFee => f.l1BaseFee
  | .blobBaseFee => f.blobBaseFee
  | .baseFeeScalar => f.baseFeeScalar
  | .blobBaseFeeScalar => f.blobBaseFeeScalar

/-- The parameters that are given, with the reference values of those that are not. -/
def parameters (f : FeeFlags) : Except Fee.ParameterError Fee.Parameters :=
  Fee.Parameters.build fun field =>
    match f.get field with
    | some input => Fee.Parameters.readField field input
    | Option.none => .ok (Fee.Parameters.reference.get field)

/-- Whether any field is given. -/
def isAnyGiven (f : FeeFlags) : Bool := Fee.Field.all.any fun field => (f.get field).isSome

/-- The parameters in words. -/
def text (f : FeeFlags) : String :=
  Text.fields "FeeArgs" (("live_params", Text.boolText f.live) :: Fee.Field.all.map fun field =>
    (field.name, Text.optionText ((f.get field).map Text.quoted)))

end FeeFlags

/-- What is given to the command. -/
structure EstimateFlags where
  log : LogFlags
  node : NodeFlags
  sender : Option Address
  nonce : Option UInt64
  gasPrice : Option Word
  gasLimit : Option UInt64
  recipient : Option String
  value : Option Word
  data : Option String
  chainId : Option UInt64
  fees : FeeFlags
  ethPrice : Option Float
  priceFile : Option String
  oracle : Option Address

/-- The command. -/
structure EstimateCommand where
  node : NodeSettings
  /-- Whose nonce is asked for. -/
  sender : Option Address
  nonce : Option UInt64
  gasPrice : Option Word
  gasLimit : UInt64
  /-- The recipient as it is written. -/
  recipient : Option String
  value : Word
  /-- The calldata as it is written. -/
  data : String
  chainId : Option UInt64
  fees : FeeFlags
  ethPrice : Option Float
  priceFile : Option String
  /-- A fee calculator on the chain to compare with. -/
  oracle : Option Address

namespace EstimateFlags

/-- Nothing given. -/
def none : EstimateFlags :=
  ⟨.none, .none, Option.none, Option.none, Option.none, Option.none, Option.none, Option.none,
    Option.none, Option.none, .none, Option.none, Option.none, Option.none⟩

/-- A parameter of the fee. -/
def feeParameter (long : String) (get : FeeFlags → Option String)
    (put : String → FeeFlags → FeeFlags) : Parameter EstimateFlags :=
  (valueParameter long (fun s : EstimateFlags => get s.fees) CommandLine.text
    fun input s => { s with fees := put input s.fees }).withHyphens

/-- The grammar of the command. -/
def grammar : Grammar EstimateFlags where
  parameters :=
    [helpParameter] ++ logParameters (·.log) (fun log s => { s with log := log }) ++
      nodeParameters (·.node) (fun node s => { s with node := node }) ++
      [valueParameter "from" (·.sender) address fun a s => { s with sender := some a },
        valueParameter "nonce" (·.nonce) number64 fun n s => { s with nonce := some n },
        valueParameter "gas-price" (·.gasPrice) wei fun w s => { s with gasPrice := some w },
        valueParameter "gas-limit" (·.gasLimit) number64 fun n s => { s with gasLimit := some n },
        valueParameter "to" (·.recipient) CommandLine.text
          fun t s => { s with recipient := some t },
        valueParameter "value" (·.value) ether fun w s => { s with value := some w },
        valueParameter "data" (·.data) CommandLine.text fun t s => { s with data := some t },
        valueParameter "chain-id" (·.chainId) number64 fun n s => { s with chainId := some n },
        switchParameter "live-params" (·.fees.live)
          fun s => { s with fees := { s.fees with live := true } },
        feeParameter "l1-base-fee" (·.l1BaseFee) fun t f => { f with l1BaseFee := some t },
        feeParameter "blob-base-fee" (·.blobBaseFee) fun t f => { f with blobBaseFee := some t },
        feeParameter "base-fee-scalar" (·.baseFeeScalar)
          fun t f => { f with baseFeeScalar := some t },
        feeParameter "blob-base-fee-scalar" (·.blobBaseFeeScalar)
          fun t f => { f with blobBaseFeeScalar := some t },
        valueParameter "eth-price" (·.ethPrice) CommandLine.price
          fun p s => { s with ethPrice := some p },
        valueParameter "price-file" (·.priceFile) path fun p s => { s with priceFile := some p },
        valueParameter "oracle" (·.oracle) address fun a s => { s with oracle := some a }]
  operand := Option.none
  subcommands := []

/-- Whether parameters are given that exclude each other. -/
def isConflicting (f : EstimateFlags) : Bool :=
  (f.fees.live && f.fees.isAnyGiven) || (f.ethPrice.isSome && f.priceFile.isSome)

/-- The command, with everything that was not given. -/
def complete (f : EstimateFlags) (env : Environment) : Except Usage EstimateCommand :=
  if f.isConflicting then .error .conflict
  else .ok {
    node := f.node.complete env
    sender := f.sender
    nonce := f.nonce
    gasPrice := f.gasPrice
    -- The gas of a plain transfer.
    gasLimit := f.gasLimit.getD 21000
    recipient := f.recipient
    value := f.value.getD 0
    data := f.data.getD "0x"
    chainId := f.chainId
    fees := f.fees
    ethPrice := f.ethPrice
    priceFile := f.priceFile
    oracle := f.oracle }

end EstimateFlags

namespace EstimateCommand

/-- Where the price of an ether comes from. -/
def priceSource (c : EstimateCommand) : Fee.PriceSource :=
  match c.priceFile, c.ethPrice with
  | some path, _ => .file path
  | none, some price => .fixed price
  | none, none => .fixed Fee.referencePrice

/-- The command in words. -/
def text (c : EstimateCommand) : String :=
  let number (n : Option UInt64) := Text.optionText (n.map fun n => Text.decimal n.toNat)
  Text.fields "Cmd" [("rpc", c.node.text), ("from", Text.optionText (c.sender.map (·.lower))),
    ("nonce", number c.nonce), ("gas_price", Text.optionText (c.gasPrice.map (·.decimal))),
    ("gas_limit", Text.decimal c.gasLimit.toNat),
    ("to", Text.optionText (c.recipient.map Text.quoted)),
    ("value", c.value.decimal), ("data", Text.quoted c.data), ("chain_id", number c.chainId),
    ("fees", c.fees.text),
    ("eth_price", Text.optionText (c.ethPrice.map Decimal.marked.text)),
    ("price_file", Text.optionText (c.priceFile.map Text.quoted)),
    ("oracle", Text.optionText (c.oracle.map (·.lower)))]

end EstimateCommand

end Rollup.CommandLine
