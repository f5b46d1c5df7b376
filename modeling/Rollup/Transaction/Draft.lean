/-
Transactions whose recipient and calldata are still text.

This is how a transaction arrives from a command line. A recipient that is absent
or blank creates a contract, any other one is an address; the calldata is
hexadecimal text. Blanks around either are ignored. The recipient is checked
first.
-/
import Rollup.Text.Blank
import Rollup.Transaction

set_option autoImplicit false

namespace Rollup.Transaction

/-- Why a draft is no transaction. -/
inductive DraftError where
  /-- The recipient, without the blanks around it, is no address. -/
  | recipient (input : String) (cause : Hex.Error)
  /-- The calldata is no hexadecimal text of bytes. -/
  | data (cause : Hex.Error)
  deriving DecidableEq, Repr

/-- What is wrong, in words. -/
def DraftError.message : DraftError → String
  | .recipient input cause =>
    "invalid recipient address " ++ Text.quoted input ++ ": " ++ cause.message
  | .data cause => "invalid calldata: " ++ cause.message

/-- A transaction whose recipient and calldata are text. -/
structure Draft where
  nonce : UInt64
  gasPrice : Word
  gasLimit : UInt64
  recipient : Option String
  value : Word
  data : String
  chainId : UInt64

/-- Reads a recipient. -/
def readRecipient : Option String → Except DraftError Recipient
  | none => .ok .create
  | some input =>
    match Text.trim input.toList with
    | [] => .ok .create
    | text =>
      match Address.parse text with
      | .ok address => .ok (.call address)
      | .error cause => .error (.recipient (String.ofList text) cause)

/-- Reads calldata. -/
def readData (input : String) : Except DraftError Bytes :=
  match Hex.decode (Text.trim input.toList) with
  | .ok bytes => .ok bytes
  | .error cause => .error (.data cause)

/-- The transaction that a draft describes. -/
def Draft.check (draft : Draft) : Except DraftError Transaction := do
  let recipient ← readRecipient draft.recipient
  let data ← readData draft.data
  .ok ⟨draft.nonce, draft.gasPrice, draft.gasLimit, recipient, draft.value, data, draft.chainId⟩

/-- The canonical bytes of the transaction that a draft describes. -/
def Draft.encode (draft : Draft) : Except DraftError Bytes := draft.check.map Transaction.encode

end Rollup.Transaction
