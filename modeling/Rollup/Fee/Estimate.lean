/-
The estimate of a data fee: in wei, in ether and in a fiat currency.

The fee is computed before the price is asked for. The fiat amount is the text of
the amount in ether, read as a double precision number, times the price.
-/
import Rollup.Ether
import Rollup.Fee.Formula
import Rollup.Fee.Price

set_option autoImplicit false

namespace Rollup.Fee

/-- Why there is no estimate. -/
inductive EstimateError where
  | parameter (cause : ParameterError)
  | price (cause : PriceError)
  /-- The amount in ether does not read as a number. -/
  | amount

/-- What is wrong, in words. -/
def EstimateError.message : EstimateError → String
  | .parameter cause => cause.message
  | .price cause => cause.message
  | .amount => "native fee amount is not a decimal number: invalid float literal"

/-- The data fee of one transaction. -/
structure Estimate where
  /-- The size of the transaction in calldata gas. -/
  size : UInt64
  /-- In wei. -/
  wei : Word
  /-- In ether, with all decimals. -/
  ether : String
  /-- In the fiat currency. -/
  fiat : Float
  /-- The price of one ether that was used. -/
  price : Float

/-- Estimates the data fee of an encoded transaction at the price that `ask` gives. Who is asked may
have a state, and asking may change it. -/
def estimateAsking {σ : Type} (ask : σ → Except PriceError Float × σ) (bytes : Bytes)
    (p : Parameters) (s : σ) : Except EstimateError Estimate × σ :=
  match fee bytes p with
  | .error cause => (.error (.parameter cause), s)
  | .ok wei =>
    let ether := Ether.format wei
    -- The price is asked for only once there is a fee.
    match ask s with
    | (.error cause, s) => (.error (.price cause), s)
    | (.ok price, s) =>
      -- The amount is read again from its own text.
      match Decimal.read? ether.toList with
      | none => (.error .amount, s)
      | some amount => (.ok ⟨size bytes, wei, ether, amount * price, price⟩, s)

/-- Estimates the data fee of an encoded transaction at the price of a source, which leaves the
files as they are. -/
def estimate (source : PriceSource) (files : Files) (bytes : Bytes) (p : Parameters) :
    Except EstimateError Estimate :=
  (estimateAsking (fun files => (source.spot files, files)) bytes p files).1

end Rollup.Fee
