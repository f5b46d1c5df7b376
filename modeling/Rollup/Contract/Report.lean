/-
Reports: outcomes in the order of their keys.

Outcomes with equal keys keep the order in which they arrived. A report is
extended by sorting again, and it is a success if nothing in it failed. It is
printed as a line for each outcome and a summary.
-/
import Rollup.Contract.Outcome

set_option autoImplicit false

namespace Rollup.Contract

/-- Outcomes in the order of their keys. -/
structure Report where
  outcomes : List Outcome

namespace Report

/-- Sorts outcomes by their keys; equal keys stay in order. -/
def sort (outcomes : List Outcome) : List Outcome :=
  outcomes.mergeSort fun a b => a.key.le b.key

/-- The report on some outcomes. -/
def ofList (outcomes : List Outcome) : Report := ⟨sort outcomes⟩

/-- The report with further outcomes. -/
def extend (r : Report) (more : List Outcome) : Report := ⟨sort (r.outcomes ++ more)⟩

/-- The number of outcomes. -/
def size (r : Report) : Nat := r.outcomes.length

/-- Whether there is no outcome. -/
def isEmpty (r : Report) : Bool := r.outcomes.isEmpty

/-- How many records were verified. -/
def verifiedCount (r : Report) : Nat := r.outcomes.countP Outcome.isVerified

/-- How many records were not. -/
def failedCount (r : Report) : Nat := r.size - r.verifiedCount

/-- The outcomes that are not verified. -/
def failures (r : Report) : List Outcome := r.outcomes.filter fun o => !o.isVerified

/-- Whether every record was verified. -/
def isSuccess (r : Report) : Bool := r.outcomes.all Outcome.isVerified

/-- The summary below the outcomes. -/
def summary (r : Report) : String :=
  Text.decimal r.verifiedCount ++ " verified, " ++ Text.decimal r.failedCount ++ " failed"

/-- A line for each outcome, and the summary. -/
def text (r : Report) : String :=
  String.join (r.outcomes.map fun o => o.text ++ "\n") ++ r.summary

/-- A report as a JSON object. -/
def toJson (r : Report) : Json.Value :=
  .object [("results", .array (r.outcomes.map Outcome.toJson))]

end Report

end Rollup.Contract
