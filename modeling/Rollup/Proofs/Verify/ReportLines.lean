/-
Which runs are printed line by line.

Every source path of a topology stands in the report, that of a proxy under its own key or under
that of its implementation, and besides them only the proxy artifact
(`Reports.mem_sourcePaths_iff`). The reasons are those of the lookups that failed and those of the
last submissions (`Reports.mem_reasons_iff`). So whether one of the lines can be broken is a
question about the topology, the node and the service (`PlainTexts`), and not about how the run
goes.

A program that is started has no part in this: what it wrote is cut down to one line before it
becomes a reason (`Forge.Execution.feed_not_mem_message`).
-/
import Rollup.Proofs.Contract.ReportText
import Rollup.Proofs.Contract.Topology
import Rollup.Proofs.Forge.Diagnosis
import Rollup.Proofs.Verify.Attempts
import Rollup.Proofs.Verify.Reports

set_option autoImplicit false

namespace Rollup

/-! ## What a program can say -/

/-- A time in some unit is written on one line. -/
@[simp] theorem Duration.feed_not_mem_inUnits (n places : Nat) :
    '\n' ∉ (inUnits n places).toList := by
  -- The decimals are digits, and they stay so when the zeros behind them are dropped.
  have hdigits : ∀ s : List Char, Text.IsDigits s →
      '\n' ∉ (s.reverse.dropWhile (· = '0')).reverse := by
    intro s hs hmem
    rw [List.mem_reverse] at hmem
    have hsub := (List.dropWhile_sublist (· = '0')).subset hmem
    exact Text.feed_not_mem_of_isDigits hs (List.mem_reverse.mp hsub)
  have hpadded : Text.IsDigits (Text.padFront '0' places (Text.numeral 10 (n % 10 ^ places))) :=
    (Text.isDigits_replicate_zero _).append (Text.isNumeral_numeral _).digits
  unfold inUnits
  dsimp only
  rw [String.toList_append, List.mem_append, not_or]
  refine ⟨Text.feed_not_mem_decimal _, ?_⟩
  split
  · decide
  · rw [String.toList_append, List.mem_append, not_or]
    refine ⟨by decide, ?_⟩
    rw [String.toList_ofList]
    exact hdigits _ hpadded

/-- Every time is. -/
@[simp] theorem Duration.feed_not_mem_text (d : Duration) : '\n' ∉ d.text.toList := by
  unfold text
  split
  · simp
  · split
    · simp
    · split <;> simp

namespace Forge

open Verify (Failure)

theorem message_timeout (limit : Duration) :
    (Failure.timeout limit).message = "verification timed out after " ++ limit.text := rfl

theorem message_rejected (status : Option Int) (output : String) :
    (Failure.rejected status output).message =
      "verifier exited with " ++ Verify.statusText status ++ ": " ++ output := rfl

/-- **Whatever a program writes, what is said of its failure is one line.** -/
theorem Execution.feed_not_mem_message {limit : Duration} {e : Execution} {cause : Failure}
    (h : e.judge limit = .error cause) : '\n' ∉ cause.message.toList := by
  rcases cause_of_judge h with hcause | ⟨status, hcause⟩
  · simp [hcause, message_timeout]
  · have hstatus : '\n' ∉ (Verify.statusText status).toList := by
      cases status <;> simp [Verify.statusText]
    have hdiagnosis := feed_not_mem_diagnosis e
    simp [hcause, message_rejected, hstatus, hdiagnosis]

/-- Only a program that is not started can leave a line feed in a reason. -/
theorem Config.spawn_of_feed_mem {c : Config} {launcher : Launcher} {r : Contract.Record} {n : Nat}
    {e : Failure} (h : c.answer launcher r n = .failed e) (hfeed : '\n' ∈ e.message.toList) :
    ∃ cause, launch launcher c.program (c.arguments r) n = .error cause := by
  cases hlaunch : launch launcher c.program (c.arguments r) n with
  | error cause => exact ⟨cause, rfl⟩
  | ok execution =>
    have hattempt : c.attempt launcher r n = execution.judge c.timeout := by rw [attempt, hlaunch]
    cases hjudge : execution.judge c.timeout with
    | ok u => simp [answer, hattempt, hjudge] at h
    | error cause =>
      have hcause : cause = e := by simpa [answer, hattempt, hjudge] using h
      rw [← hcause] at hfeed
      exact absurd hfeed (Execution.feed_not_mem_message hjudge)

end Forge

namespace Verify

open Contract (Key Record Outcome Report Topology)

/-! ## Reasons -/

/-- What is said of a record whose last submission comes to this. -/
def Answer.reason? : Answer → Option String
  | .accepted => none
  | .failed e => some e.message
  | .crashed => some taskFailed

/-- The reason of a result is the one of the answer with which its course ends. -/
theorem Retry.reason_settle {retry : Retry} {r : Record} {script : Nat → Answer} {k : Nat}
    (h : retry.EndsAt script k) :
    ((retry.course r script).settle r).reason = (script k).reason? := by
  obtain ⟨hreaches, hdecided⟩ := endsAt_iff.mp h
  obtain ⟨-, houtcome⟩ := course_spec hreaches hdecided
  rw [Course.settle, houtcome]
  cases hlast : script k with
  | accepted => rfl
  | failed e =>
    rw [hlast] at hdecided
    rw [decide_failed hdecided]
    rfl
  | crashed => rfl

/-- The courses of a record end with one attempt, whose answer is the reason. -/
theorem Retry.reason_settle_eq_some_iff {retry : Retry} {r : Record} {script : Nat → Answer}
    {s : String} : ((retry.course r script).settle r).reason = some s ↔
      ∃ k, retry.EndsAt script k ∧ (script k).reason? = some s := by
  constructor
  · intro h
    obtain ⟨k, hreaches, hdecided⟩ := exists_reaches retry r script
    have hends : retry.EndsAt script k := endsAt_iff.mpr ⟨hreaches, hdecided⟩
    exact ⟨k, hends, by rw [← reason_settle (r := r) hends, h]⟩
  · rintro ⟨k, hends, hreason⟩
    rw [reason_settle hends, hreason]

/-- The failure of a proxy says why it has no implementation. -/
theorem Resolution.failure?_eq_some_iff {r : Resolution} {o : Outcome} :
    r.failure? = some o ↔
      ∃ reason, r.implementation = .error reason ∧ o = .failed r.proxy.key reason := by
  unfold failure?
  cases r.implementation with
  | ok a => simp
  | error reason => simp [eq_comm]

/-! ## What a report says -/

section

variable {c : Config} {look : Record → Lookup} {service : Service} {t : Topology}
  {report : Report}

/-- The keys of a report are those of the proxies without an implementation and of the records that
were submitted. -/
theorem Reports.exists_key_iff (h : Reports c look service t report) {p : Key → Prop} :
    (∃ o ∈ report.outcomes, p o.key) ↔
      (∃ k ∈ (WorkList.ofLookups c t look).unresolved.map Outcome.key, p k) ∨
      ∃ k ∈ (WorkList.ofLookups c t look).dispatch.map Record.key, p k := by
  have hkeys : (∃ o ∈ report.outcomes, p o.key) ↔ ∃ k ∈ report.outcomes.map Outcome.key, p k := by
    simp
  rw [hkeys]
  simp only [h.keys_perm.mem_iff, List.mem_append, or_and_right, exists_or]

/-- **The source paths of a report** are those of the records, and the proxy artifact if there is a
proxy. -/
theorem Reports.mem_sourcePaths_iff (h : Reports c look service t report) {s : String} :
    (∃ o ∈ report.outcomes, o.sourcePath = s) ↔
      (∃ r ∈ t.records, r.sourcePath = s) ∨ t.proxies ≠ [] ∧ s = c.proxyArtifact := by
  have hkey := h.exists_key_iff (p := fun k => k.sourcePath = s)
  have hrecords : (∃ r ∈ t.records, r.sourcePath = s) ↔
      (∃ p ∈ t.proxies, p.sourcePath = s) ∨ ∃ r ∈ t.contracts, r.sourcePath = s := by
    simp only [← t.proxies_append_contracts_perm.mem_iff, List.mem_append, or_and_right, exists_or]
  refine hkey.trans ?_
  simp only [WorkList.mem_keys_unresolved_iff, WorkList.mem_keys_dispatch_iff]
  rw [hrecords]
  constructor
  · rintro (⟨-, ⟨p, hp, -, rfl⟩, hs⟩ | ⟨-, ⟨p, hp, rfl⟩ | ⟨p, hp, a, -, rfl⟩ | ⟨r, hr, rfl⟩, hs⟩)
    · exact .inl (.inl ⟨p, hp, hs⟩)
    · exact .inr ⟨List.ne_nil_of_mem hp, hs.symm⟩
    · exact .inl (.inl ⟨p, hp, hs⟩)
    · exact .inl (.inr ⟨r, hr, hs⟩)
  · rintro ((⟨p, hp, hs⟩ | ⟨r, hr, hs⟩) | ⟨hne, hs⟩)
    · -- A proxy is reported under its own key, or else its implementation is with its source path.
      by_cases hok : ∃ a, (look p).implementation = .ok a
      · obtain ⟨a, ha⟩ := hok
        exact .inr ⟨⟨a, p.sourcePath⟩, .inr (.inl ⟨p, hp, a, ha, rfl⟩), hs⟩
      · exact .inl ⟨p.key, ⟨p, hp, not_exists.mp hok, rfl⟩, hs⟩
    · exact .inr ⟨r.key, .inr (.inr ⟨r, hr, rfl⟩), hs⟩
    · obtain ⟨p, hp⟩ := List.exists_mem_of_ne_nil _ hne
      exact .inr ⟨⟨p.address, c.proxyArtifact⟩, .inl ⟨p, hp, rfl⟩, hs.symm⟩

/-- **The reasons of a report** are those of the lookups without an implementation, and those of the
last submissions. -/
theorem Reports.mem_reasons_iff (h : Reports c look service t report) {s : String} :
    (∃ o ∈ report.outcomes, o.reason = some s) ↔
      (∃ p ∈ t.proxies, (look p).implementation = .error s) ∨
      ∃ r ∈ (WorkList.ofLookups c t look).dispatch, ∃ k, c.retry.EndsAt (service.answers r) k ∧
        (service.answers r k).reason? = some s := by
  simp only [h.perm.mem_iff, List.mem_append, or_and_right, exists_or]
  -- A reason is one of a proxy that is left over, or of a submission.
  refine or_congr ?_ ?_
  · simp only [WorkList.ofLookups, WorkList.ofResolutions, List.mem_filterMap, List.mem_map,
      Resolution.failure?_eq_some_iff]
    constructor
    · rintro ⟨-, ⟨-, ⟨p, hp, rfl⟩, reason, hreason, rfl⟩, hs⟩
      exact ⟨p, hp, Option.some.inj hs ▸ hreason⟩
    · rintro ⟨p, hp, hs⟩
      exact ⟨.failed p.key s, ⟨.ofLookup p (look p), ⟨p, hp, rfl⟩, s, hs, rfl⟩, rfl⟩
  · simp only [List.mem_map]
    constructor
    · rintro ⟨-, ⟨r, hr, rfl⟩, hs⟩
      exact ⟨r, hr, Retry.reason_settle_eq_some_iff.mp hs⟩
    · rintro ⟨r, hr, hs⟩
      exact ⟨_, ⟨r, hr, rfl⟩, Retry.reason_settle_eq_some_iff.mpr hs⟩

/-! ## Line feeds -/

/-- No text that a run prints holds a line feed: no source path, no proxy artifact that is used, no
error of the node, and no failure of a last submission. -/
structure PlainTexts (c : Config) (look : Record → Lookup) (service : Service) (t : Topology) :
    Prop where
  sourcePaths : ∀ r ∈ t.records, '\n' ∉ r.sourcePath.toList
  proxyArtifact : t.proxies ≠ [] → '\n' ∉ c.proxyArtifact.toList
  lookups : ∀ p ∈ t.proxies, ∀ e, look p = .answered (.error e) → '\n' ∉ e.message.toList
  submissions : ∀ r ∈ (WorkList.ofLookups c t look).dispatch, ∀ k,
    c.retry.EndsAt (service.answers r) k → ∀ e, service.answers r k = .failed e →
      '\n' ∉ e.message.toList

/-- The reason of a proxy is plain but for what the node says. -/
theorem Lookup.plain_iff {l : Lookup} :
    (∀ s, l.implementation = .error s → '\n' ∉ s.toList) ↔
      ∀ e, l = .answered (.error e) → '\n' ∉ e.message.toList := by
  have hunresolved : '\n' ∉ unresolved.toList := by decide
  have hlost : '\n' ∉ (unresolved ++ ": lookup task failed").toList := by decide
  match l with
  | .lost => simp [implementation, unresolved]
  | .answered (.error e) => simp [implementation, hunresolved]
  | .answered (.ok slot) =>
    cases himplementation : implementation? slot with
    | none => simp [implementation, himplementation, hunresolved]
    | some a => simp [implementation, himplementation]

/-- An answer is on one line if its message is, when it has one. -/
theorem Answer.plain_iff {a : Answer} : (∀ s, a.reason? = some s → '\n' ∉ s.toList) ↔
    ∀ e, a = .failed e → '\n' ∉ e.message.toList := by
  cases a with
  | accepted => simp [reason?]
  | failed e => simp [reason?]
  | crashed => simp [reason?, taskFailed]

/-- A report is of plain texts if what it is made of is. -/
theorem Reports.plain_iff (h : Reports c look service t report) :
    (∀ o ∈ report.outcomes, '\n' ∉ o.sourcePath.toList ∧
      ∀ reason, o.reason = some reason → '\n' ∉ reason.toList) ↔ PlainTexts c look service t := by
  have htexts : (∀ o ∈ report.outcomes, '\n' ∉ o.sourcePath.toList ∧
      ∀ reason, o.reason = some reason → '\n' ∉ reason.toList) ↔
      ∀ s, (∃ o ∈ report.outcomes, o.sourcePath = s) ∨ (∃ o ∈ report.outcomes, o.reason = some s) →
        '\n' ∉ s.toList := by
    constructor
    · rintro hall s (⟨o, ho, rfl⟩ | ⟨o, ho, hs⟩)
      · exact (hall o ho).1
      · exact (hall o ho).2 s hs
    · intro hall o ho
      exact ⟨hall _ (.inl ⟨o, ho, rfl⟩), fun s hs => hall s (.inr ⟨o, ho, hs⟩)⟩
  rw [htexts]
  simp only [h.mem_sourcePaths_iff, h.mem_reasons_iff]
  constructor
  · intro hall
    refine ⟨?_, ?_, ?_, ?_⟩
    · intro r hr
      exact hall _ (.inl (.inl ⟨r, hr, rfl⟩))
    · intro hne
      exact hall _ (.inl (.inr ⟨hne, rfl⟩))
    · intro p hp
      exact Lookup.plain_iff.mp fun s hs => hall s (.inr (.inl ⟨p, hp, hs⟩))
    · intro r hr k hk
      exact Answer.plain_iff.mp fun s hs => hall s (.inr (.inr ⟨r, hr, k, hk, hs⟩))
  · -- Every text comes from the topology, from the program itself, from a lookup or from a
    -- submission.
    rintro hplain s ((⟨r, hr, rfl⟩ | ⟨hne, rfl⟩) | (⟨p, hp, hs⟩ | ⟨r, hr, k, hk, hs⟩))
    · exact hplain.sourcePaths r hr
    · exact hplain.proxyArtifact hne
    · exact Lookup.plain_iff.mpr (hplain.lookups p hp) s hs
    · exact Answer.plain_iff.mpr (hplain.submissions r hr k hk) s hs

/-- **Which runs are printed line by line**: exactly those in which no text holds a line feed. -/
theorem Reports.lineByLine_iff (h : Reports c look service t report) :
    report.LineByLine ↔ PlainTexts c look service t := by
  rw [Report.lineByLine_iff_forall, h.plain_iff]

/-- A run with a program that can be started is printed line by line unless the topology, the proxy
artifact or the node has a line feed for it. -/
theorem Reports.lineByLine_of_started {f : Forge.Config} {launcher : Forge.Launcher}
    (h : Reports c look service t report)
    (hservice : ∀ r k, service.answers r k = f.answer launcher r k)
    (hstarted : ∀ r k, f.isStarted launcher r k = true)
    (hpaths : ∀ r ∈ t.records, '\n' ∉ r.sourcePath.toList)
    (hartifact : '\n' ∉ c.proxyArtifact.toList)
    (hlookups : ∀ p ∈ t.proxies, ∀ e, look p = .answered (.error e) → '\n' ∉ e.message.toList) :
    report.LineByLine := by
  rw [Report.lineByLine_iff_forall, h.plain_iff]
  refine ⟨hpaths, fun _ => hartifact, hlookups, ?_⟩
  intro r _ k _ e he hfeed
  rw [hservice] at he
  -- Only what is told of a program that could not be started may hold a line feed.
  obtain ⟨cause, hcause⟩ := Forge.Config.spawn_of_feed_mem he hfeed
  have hok := hstarted r k
  rw [Forge.Config.isStarted, hcause] at hok
  cases hok

end

/-- A report on plain texts stands line by line. -/
theorem lineByLine_smallTopology :
    ∃ summary, run .standard unwrittenSlots (breakingOver (.ofNat 2)) smallTopology = some summary ∧
      summary.report.LineByLine := by
  obtain ⟨summary, h⟩ :
      ∃ summary, run .standard unwrittenSlots (breakingOver (.ofNat 2)) smallTopology =
        some summary := ⟨_, rfl⟩
  refine ⟨summary, h, (Reports.lineByLine_iff (run_reports h)).mpr
    ⟨by decide, fun _ => by decide, ?_, ?_⟩⟩
  · intro p _ e he
    cases he
  · intro r _ k _ e he
    have hanswer : (breakingOver (.ofNat 2)).answers r k ≠ .failed e := by
      unfold Service.answers breakingOver
      split <;> exact nofun
    exact absurd he hanswer

/-- A contract whose source path goes on in a second line, like the line of another contract. -/
def forgedRecord : Record :=
  contractAt 1 "src/A.sol:A\nverified 0x0000000000000000000000000000000000000002 src/B.sol:B"

def forgedTopology : Topology := ⟨[forgedRecord], rfl⟩

/-- The report on it says of the other contract that it was verified. -/
theorem not_lineByLine_forgedTopology :
    ∃ summary, run .standard unwrittenSlots (breakingOver .zero) forgedTopology = some summary ∧
      summary.report.outcomes = [.verified forgedRecord] ∧
      summary.report.lines =
        ["verified 0x0000000000000000000000000000000000000001 src/A.sol:A".toList,
          "verified 0x0000000000000000000000000000000000000002 src/B.sol:B".toList,
          "1 verified, 0 failed".toList] ∧
      ¬ summary.report.LineByLine := by
  obtain ⟨summary, h⟩ :
      ∃ summary, run .standard unwrittenSlots (breakingOver .zero) forgedTopology =
        some summary := ⟨_, rfl⟩
  have houtcomes : summary.report.outcomes = [.verified forgedRecord] :=
    List.perm_singleton.mp (run_reports h).perm
  -- The path begins a line of its own, which looks like that of another record.
  have hline : (Outcome.verified forgedRecord).text.toList =
      "verified 0x0000000000000000000000000000000000000001 src/A.sol:A".toList ++
        '\n' :: "verified 0x0000000000000000000000000000000000000002 src/B.sol:B".toList := by
    have haddress : (Outcome.verified forgedRecord).address = .ofNat 1 := rfl
    have hchecksum : (Address.ofNat 1).checksum = (Address.ofNat 1).lower :=
      Address.checksum_eq_lower (by decide)
    rw [Contract.Outcome.toList_text, haddress, Contract.opening_eq, hchecksum]
    decide +kernel
  have hsummary : summary.report.summary.toList = "1 verified, 0 failed".toList := by
    have hone : Text.numeral 10 1 = ['1'] := Text.numeral_of_lt (by decide)
    have hzero : Text.numeral 10 0 = ['0'] := Text.numeral_of_lt (by decide)
    simp [Report.summary, Report.verifiedCount, Report.failedCount, Report.size, houtcomes,
      Outcome.isVerified, Outcome.verified, Text.decimal, hone, hzero]
  refine ⟨summary, h, houtcomes, ?_, ?_⟩
  · rw [Report.lines, Report.toList_text, houtcomes, List.map_singleton, hline, hsummary]
    decide +kernel
  · rw [Report.lineByLine_iff_forall, houtcomes]
    intro hplain
    have hfeed : '\n' ∈ forgedRecord.sourcePath.toList := by decide
    exact (hplain _ List.mem_cons_self).1 hfeed

end Verify

end Rollup
