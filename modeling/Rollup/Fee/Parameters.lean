/-
The four inputs of the data fee, and how they are given.

The base fees are in wei. The scalars are fixed point numbers of six decimals.
Parameters come as text, where blanks around a field are ignored, as signed
numbers, or as the reference values of the default chain configuration. Of
several bad fields the first one is reported.
-/
import Rollup.Quantity
import Rollup.Text.Blank
import Rollup.Text.Quoted
import Rollup.Word

set_option autoImplicit false

namespace Rollup.Fee

/-- The fields of the parameters, in order. -/
inductive Field where
  | l1BaseFee
  | blobBaseFee
  | baseFeeScalar
  | blobBaseFeeScalar
  deriving DecidableEq, Repr

/-- The name of a field in messages. -/
def Field.name : Field → String
  | .l1BaseFee => "l1_base_fee"
  | .blobBaseFee => "blob_base_fee"
  | .baseFeeScalar => "base_fee_scalar"
  | .blobBaseFeeScalar => "blob_base_fee_scalar"

/-- All fields, in order. -/
def Field.all : List Field := [.l1BaseFee, .blobBaseFee, .baseFeeScalar, .blobBaseFeeScalar]

/-- Why there are no parameters, or no fee. -/
inductive ParameterError where
  | negative (field : Field)
  /-- The text, without the blanks around it, is no unsigned number. -/
  | invalid (field : Field) (input : String)
  /-- A step of the computation does not fit into 256 bits. -/
  | overflow
  deriving DecidableEq, Repr

/-- What is wrong, in words. -/
def ParameterError.message : ParameterError → String
  | .negative field => "fee parameter \x60" ++ field.name ++ "\x60 must not be negative"
  | .invalid field input =>
    "fee parameter \x60" ++ field.name ++ "\x60 is not an unsigned integer: " ++ Text.quoted input
  | .overflow => "l1 fee overflows 256 bits"

/-- The inputs of the data fee. -/
structure Parameters where
  l1BaseFee : Word
  blobBaseFee : Word
  baseFeeScalar : Word
  blobBaseFeeScalar : Word
  deriving DecidableEq, Repr

namespace Parameters

/-- A base fee of 30 gwei with the scalars of the default chain configuration. -/
def reference : Parameters := ⟨30000000000, 263, 2735, 819492⟩

/-- All inputs zero. -/
def zero : Parameters := ⟨0, 0, 0, 0⟩

/-- The value of a field. -/
def get (p : Parameters) : Field → Word
  | .l1BaseFee => p.l1BaseFee
  | .blobBaseFee => p.blobBaseFee
  | .baseFeeScalar => p.baseFeeScalar
  | .blobBaseFeeScalar => p.blobBaseFeeScalar

/-- Reads the text of a field. -/
def readField (field : Field) (input : String) : Except ParameterError Word :=
  let text := Text.trim input.toList
  if text.head? = some '-' then .error (.negative field)
  else match Quantity.read 256 text with
    | some n => .ok (BitVec.ofNat 256 n)
    | none => .error (.invalid field (String.ofList text))

/-- Takes a signed number for a field. -/
def ofSigned (field : Field) (n : Int) : Except ParameterError Word :=
  match n with
  | .ofNat n => .ok (BitVec.ofNat 256 n)
  | .negSucc _ => .error (.negative field)

/-- Builds parameters field by field, in order, up to the first one that fails. -/
def build {ε : Type} (field : Field → Except ε Word) : Except ε Parameters := do
  let l1BaseFee ← field .l1BaseFee
  let blobBaseFee ← field .blobBaseFee
  let baseFeeScalar ← field .baseFeeScalar
  let blobBaseFeeScalar ← field .blobBaseFeeScalar
  .ok ⟨l1BaseFee, blobBaseFee, baseFeeScalar, blobBaseFeeScalar⟩

/-- Reads the texts of all fields. -/
def read (input : Field → String) : Except ParameterError Parameters :=
  build fun field => readField field (input field)

/-- Takes signed numbers for all fields. -/
def fromSigned (input : Field → Int) : Except ParameterError Parameters :=
  build fun field => ofSigned field (input field)

/-- The parameters in one line. -/
def text (p : Parameters) : String :=
  "l1BaseFee=" ++ p.l1BaseFee.decimal ++ " blobBaseFee=" ++ p.blobBaseFee.decimal ++
    " baseFeeScalar=" ++ p.baseFeeScalar.decimal ++ " blobBaseFeeScalar=" ++
    p.blobBaseFeeScalar.decimal

end Parameters

end Rollup.Fee
