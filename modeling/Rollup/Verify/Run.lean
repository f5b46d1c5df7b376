/-
A whole run: the lookups first, and once all of them have ended, the submissions.

A run never fails as a whole. What goes wrong with a proxy or with a record is a
failed outcome in the report. The one exception are more permits than can be kept.
-/
import Rollup.Contract.Report
import Rollup.Verify.Timeline

set_option autoImplicit false

namespace Rollup.Verify

open Contract (Record Outcome Report Topology)

/-- What came of a run. -/
structure Summary where
  report : Report
  /-- The submissions, the last one first. -/
  submissions : List Submission
  /-- How many slots were read. -/
  reads : Nat
  /-- When the run ended. -/
  finish : Nat

/-- The report on a work list whose records have got their outcomes. -/
def WorkList.report (w : WorkList) (outcomes : List Outcome) : Report :=
  (Report.ofList w.unresolved).extend outcomes

/-- Submits records from a moment on. -/
def dispatch (c : Config) (service : Service) (work : List Record) (now : Nat) : Option Timeline :=
  c.permits?.map fun permits => Timeline.finish c.retry service work permits now

/-- A run on a topology; nothing, if there are too many permits. -/
def run (c : Config) (look : Record → TimedLookup) (service : Service) (t : Topology) :
    Option Summary :=
  let work := plan c t look
  (dispatch c service work.dispatch (lookupSpan t.proxies look)).map fun timeline =>
    ⟨work.report timeline.state.outcomes, timeline.submissions, t.proxies.length, timeline.now⟩

end Rollup.Verify
