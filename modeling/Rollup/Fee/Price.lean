/-
The spot price of one ether in a fiat currency.

A price is fixed, or stands alone in a file that is read each time the price is
asked for. It has to be a finite number that is not negative; a negative zero is
not below zero and passes.
-/
import Rollup.Decimal.Reading
import Rollup.Decimal.Shortest
import Rollup.Files
import Rollup.Text.Blank
import Rollup.Text.Quoted

set_option autoImplicit false

namespace Rollup.Fee

/-- Why there is no price. -/
inductive PriceError where
  /-- The file could not be read. -/
  | unreadable (path : String) (cause : SystemError)
  /-- The content of the file, without the blanks around it, is no number. -/
  | notANumber (content : String)
  /-- The number is negative, infinite or none at all. -/
  | outOfRange (price : Float)

/-- What is wrong, in words. -/
def PriceError.message : PriceError → String
  | .unreadable path cause => "failed to read price from " ++ path ++ ": " ++ cause.message
  | .notANumber content => "price " ++ Text.quoted content ++ " is not a number"
  | .outOfRange price =>
    "price " ++ Decimal.plain.text price ++ " must be a finite, non-negative number"

/-- Where the price comes from. -/
inductive PriceSource where
  | fixed (price : Float)
  /-- A file. -/
  | file (path : String)

/-- The price where none is given. -/
def referencePrice : Float := 3800

/-- Lets a price pass that is finite and not negative. -/
def checkPrice (price : Float) : Except PriceError Float :=
  if price.isFinite && 0 ≤ price then .ok price else .error (.outOfRange price)

/-- The price that the content of a file gives. -/
def readPrice (content : String) : Except PriceError Float :=
  let text := Text.trim content.toList
  match Decimal.read? text with
  | some price => checkPrice price
  | none => .error (.notANumber (String.ofList text))

/-- The spot price, as the files stand now. -/
def PriceSource.spot (source : PriceSource) (files : Files) : Except PriceError Float :=
  match source with
  | .fixed price => checkPrice price
  | .file path =>
    match files.readText path with
    | .ok content => readPrice content
    | .error cause => .error (.unreadable path cause)

end Rollup.Fee
