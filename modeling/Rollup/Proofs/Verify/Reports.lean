/-
What runs report, over all orders in which lookups and submissions can end.

`Reports` leaves free what a scheduler decides: the order in which the lookups end, the
interleaving of the submissions, and the order in which the outcomes are collected. A run
on the simulated scheduler is one case of it (`run_reports`). What a report says is
nevertheless determined by the topology and by the answers: it holds the outcomes that are
known from the start and the outcome of the course of each record that is submitted
(`Reports.perm`), sorted by their keys.

It does not follow that every key has one outcome. The outcomes that are known from the
start belong to proxies, and nothing keeps the key of such a proxy from being submitted as
well. When this happens is a question about the topology and the lookups alone
(`Reports.nodup_keys_iff_not_mem`).
-/
import Rollup.Proofs.Contract.Sorting
import Rollup.Proofs.Verify.Candidates
import Rollup.Proofs.Verify.Timeline

set_option autoImplicit false

namespace Rollup.Verify

open Contract (Key Record Outcome Report Topology)

/-! ## One result for each record -/

/-- **Every record has one result**, whatever the interleaving and whichever submissions break down.
A record has the failure of a lost task exactly if its task broke down, and otherwise the result of
its own course and no other. -/
theorem Dispatches.results_exact {c : Config} {service : Service} {work : List Record} {s : State}
    {results : List Outcome} (hw : (work.map Record.key).Nodup)
    (h : Dispatches c service work s results) :
    (results.map Outcome.key).Perm (work.map Record.key) ∧
    s.tasks.map Task.record = work ∧
    ∀ t ∈ s.tasks,
      (.failed t.record.key taskFailed ∈ results ↔ t.phase = .crashed) ∧
      (t.phase ≠ .crashed → ∃ o,
        (c.retry.course t.record (service.answers t.record)).outcome = some o ∧
        Report.ofKey t.record.key results = [o]) := by
  refine ⟨h.keys_perm hw, h.records, fun t ht => ?_⟩
  have hr : t.record ∈ work := h.records ▸ List.mem_map_of_mem ht
  have hkey := h.ofKey_eq hw hr
  -- The only result of this key is the one that its course settles on.
  have hmem (o : Outcome) (ho : o.key = t.record.key) :
      o ∈ results ↔ o = (c.retry.course t.record (service.answers t.record)).settle t.record := by
    rw [← List.mem_singleton, ← hkey, Report.mem_ofKey]
    exact (and_iff_left ho).symm
  refine ⟨?_, fun hcrashed => ?_⟩
  · rw [hmem _ rfl, eq_comm, Retry.settle_eq_taskFailed_iff, h.crashed_iff hw ht]
  · rw [Ne, h.crashed_iff hw ht] at hcrashed
    obtain ⟨o, ho⟩ := Option.ne_none_iff_exists'.mp hcrashed
    refine ⟨o, ho, ?_⟩
    rw [hkey, Course.settle, ho, Option.getD_some]

/-- A contract with an artifact of this name. -/
def contractAt (n : Nat) (name : String) : Record := ⟨name, .ofNat n, 200, false⟩

/-- A service that breaks down over one address and accepts everything else. -/
def breakingOver (a : Address) : Service := fun r _ =>
  ⟨0, if r.address = a then .crashed else .accepted⟩

/-- One of two tasks is lost, and the other one is not. -/
theorem results_exact_of_breakingOver :
    ∃ timeline,
      dispatch .standard (breakingOver (.ofNat 2)) [contractAt 1 "A", contractAt 2 "B"] 0 =
        some timeline ∧
      .failed (contractAt 2 "B").key taskFailed ∈ timeline.state.outcomes ∧
      Report.ofKey (contractAt 1 "A").key timeline.state.outcomes =
        [.verified (contractAt 1 "A")] := by
  obtain ⟨timeline, h, htasks⟩ : ∃ timeline,
      dispatch .standard (breakingOver (.ofNat 2)) [contractAt 1 "A", contractAt 2 "B"] 0 =
        some timeline ∧
      timeline.state.tasks =
        [⟨contractAt 1 "A", .done (.verified (contractAt 1 "A"))⟩, ⟨contractAt 2 "B", .crashed⟩] :=
    -- The scheduler is run here.
    ⟨_, rfl, rfl⟩
  obtain ⟨-, -, hresults⟩ := Dispatches.results_exact (by decide) (dispatch_dispatches h)
  rw [htasks] at hresults
  obtain ⟨o, ho, hkey⟩ := (hresults _ List.mem_cons_self).2 nofun
  cases ho
  refine ⟨timeline, h, ?_, hkey⟩
  exact (hresults _ (List.mem_cons_of_mem _ List.mem_cons_self)).1.mpr rfl

/-! ## Reports over all orders -/

/-- What a run can report: the lookups end in some order, the records are submitted in some
interleaving, and the outcomes are collected in some order. -/
inductive Reports (c : Config) (look : Record → Lookup) (service : Service) (t : Topology) :
    Report → Prop where
  | intro {rs : List Resolution} {s : State} {results : List Outcome} :
    Resolves t.proxies look rs →
    Dispatches c service (WorkList.ofResolutions c rs t.contracts).dispatch s results →
    Reports c look service t ((WorkList.ofResolutions c rs t.contracts).report results)

/-- A run on the simulated scheduler is one of these. -/
theorem run_reports {c : Config} {look : Record → TimedLookup} {service : Service} {t : Topology}
    {summary : Summary} (h : run c look service t = some summary) :
    Reports c (fun p => (look p).lookup) service t summary.report := by
  obtain ⟨timeline, htimeline, rfl⟩ := Option.map_eq_some_iff.mp h
  exact .intro (resolve_resolves t.proxies look) (dispatch_dispatches htimeline)

/-- A run ends with a report exactly if its permits can be kept. -/
theorem isSome_run_iff {c : Config} {look : Record → TimedLookup} {service : Service}
    {t : Topology} :
    (run c look service t).isSome = true ↔ max 1 c.maxConcurrency ≤ permitLimit := by
  rw [run, Option.isSome_map, dispatch, Option.isSome_map, Config.permits?]
  split <;> simp [*]

/-! ## What a report holds -/

section

variable {c : Config} {look : Record → Lookup} {service : Service} {t : Topology}
  {report : Report}

/-- Whatever the order in which the lookups end, one work list is submitted. -/
theorem Reports.exists_dispatches (h : Reports c look service t report) :
    ∃ s results, Dispatches c service (WorkList.ofLookups c t look).dispatch s results ∧
      report = (WorkList.ofLookups c t look).report results := by
  obtain ⟨hrs, hd⟩ := h
  rw [hrs.eq_map] at hd ⊢
  exact ⟨_, _, hd, rfl⟩

/-- A report holds what was known before and what came of the submissions. -/
theorem WorkList.report_perm (w : WorkList) (results : List Outcome) :
    (w.report results).outcomes.Perm (w.unresolved ++ results) :=
  (Report.sort_perm _).trans ((Report.sort_perm _).append_right _)

theorem WorkList.sorted_report (w : WorkList) (results : List Outcome) :
    Report.Sorted (w.report results).outcomes := Report.sorted_sort _

/-- Under each key stand the outcomes that were known before, then the results. -/
theorem WorkList.ofKey_report (w : WorkList) (results : List Outcome) (k : Key) :
    Report.ofKey k (w.report results).outcomes =
      Report.ofKey k w.unresolved ++ Report.ofKey k results := by
  rw [report, Report.extend, Report.ofList, Report.filter_sort, Report.ofKey_append,
    Report.filter_sort]

/-- **What a report holds**: the outcomes that are known from the start, and for each record that is
submitted the outcome of its course. -/
theorem Reports.perm (h : Reports c look service t report) :
    report.outcomes.Perm ((WorkList.ofLookups c t look).unresolved ++
      (WorkList.ofLookups c t look).dispatch.map fun r =>
        (c.retry.course r (service.answers r)).settle r) := by
  obtain ⟨s, results, hd, rfl⟩ := h.exists_dispatches
  have hn := WorkList.nodup_keys_dispatch c t look
  exact (WorkList.report_perm _ results).trans ((hd.perm hn).append_left _)

/-- The keys of a report do not depend on what the service answers. -/
theorem Reports.keys_perm (h : Reports c look service t report) :
    (report.outcomes.map Outcome.key).Perm
      ((WorkList.ofLookups c t look).unresolved.map Outcome.key ++
        (WorkList.ofLookups c t look).dispatch.map Record.key) := by
  have hperm := h.perm.map Outcome.key
  rw [List.map_append, List.map_map] at hperm
  refine hperm.trans (.of_eq (congrArg _ (List.map_congr_left fun r _ => ?_)))
  exact Retry.key_settle

/-- Every report of a run is sorted. -/
theorem Reports.sorted (h : Reports c look service t report) :
    Report.Sorted report.outcomes := by
  obtain ⟨-, results, -, rfl⟩ := h.exists_dispatches
  exact WorkList.sorted_report _ results

/-- The keys of a report differ exactly if no proxy without an implementation is submitted under its
own key. -/
theorem Reports.nodup_keys_iff_not_mem (h : Reports c look service t report) :
    (report.outcomes.map Outcome.key).Nodup ↔
      ∀ p ∈ t.proxies, (∀ a, (look p).implementation ≠ .ok a) →
        p.key ∉ (WorkList.ofLookups c t look).dispatch.map Record.key := by
  rw [h.keys_perm.nodup_iff, List.nodup_append]
  constructor
  · rintro ⟨-, -, hdisjoint⟩ p hp hnone hmem
    exact hdisjoint p.key ((WorkList.mem_keys_unresolved_iff c t look).mpr ⟨p, hp, hnone, rfl⟩)
      p.key hmem rfl
  · intro hsplit
    refine ⟨WorkList.nodup_keys_unresolved c t look, WorkList.nodup_keys_dispatch c t look, ?_⟩
    rintro k hk l hl rfl
    obtain ⟨p, hp, hnone, rfl⟩ := (WorkList.mem_keys_unresolved_iff c t look).mp hk
    exact hsplit p hp hnone hl

/-- **When no two results have the same key**: exactly if no proxy without an implementation is
declared with the proxy artifact itself, or has its address as the implementation of a proxy of the
same artifact. Otherwise such a proxy is in the report twice, as a failure that was known from the
start and with the result of the record that was submitted under its key. -/
theorem Reports.nodup_keys_iff (h : Reports c look service t report) :
    (report.outcomes.map Outcome.key).Nodup ↔
      ∀ p ∈ t.proxies, (∀ a, (look p).implementation ≠ .ok a) →
        p.sourcePath ≠ c.proxyArtifact ∧
        ∀ q ∈ t.proxies, (look q).implementation = .ok p.address →
          q.sourcePath ≠ p.sourcePath := by
  rw [h.nodup_keys_iff_not_mem]
  refine forall_congr' fun p => forall_congr' fun hp => forall_congr' fun _ => ?_
  rw [WorkList.mem_keys_dispatch_iff_of_unresolved c t look hp, not_or]
  refine and_congr Iff.rfl ?_
  constructor
  · intro hno q hq ha hs
    exact hno ⟨q, hq, ha, hs⟩
  · rintro hall ⟨q, hq, ha, hs⟩
    exact hall q hq ha hs

end

/-- A node whose slots were never written. -/
def unwrittenSlots : Record → TimedLookup := fun _ => ⟨0, .answered (.ok 0)⟩

/-- A slot that was never written names no implementation. -/
theorem implementation_unwrittenSlots (p : Record) (a : Address) :
    (unwrittenSlots p).lookup.implementation ≠ .ok a := nofun

/-- One proxy and one contract. -/
def smallTopology : Topology := ⟨[⟨"A", .ofNat 1, 200, true⟩, contractAt 2 "B"], rfl⟩

/-- A topology without the artifact of proxies has each key once. -/
theorem nodup_keys_smallTopology :
    ∃ summary, run .standard unwrittenSlots (breakingOver (.ofNat 2)) smallTopology = some summary ∧
      (summary.report.outcomes.map Outcome.key).Nodup := by
  obtain ⟨summary, h⟩ :
      ∃ summary, run .standard unwrittenSlots (breakingOver (.ofNat 2)) smallTopology =
        some summary := ⟨_, rfl⟩
  refine ⟨summary, h, (Reports.nodup_keys_iff (run_reports h)).mpr fun p hp _ => ?_⟩
  obtain rfl : p = ⟨"A", .ofNat 1, 200, true⟩ := List.mem_singleton.mp hp
  exact ⟨by decide, fun q _ ha => absurd ha (implementation_unwrittenSlots q _)⟩

/-- A proxy that is declared with the proxy artifact itself. -/
def bareProxy : Topology :=
  ⟨[⟨Config.standard.proxyArtifact, .ofNat 0x4200000000000000000000000000000000000015, 200, true⟩],
    rfl⟩

/-- Its key has a failed and a verified result. -/
theorem not_nodup_keys_bareProxy :
    ∃ summary, run .standard unwrittenSlots (breakingOver .zero) bareProxy = some summary ∧
      (∃ o ∈ summary.report.outcomes, ∃ o' ∈ summary.report.outcomes,
        o.key = o'.key ∧ o.status = .failed ∧ o'.status = .verified) ∧
      ¬ (summary.report.outcomes.map Outcome.key).Nodup := by
  obtain ⟨summary, h⟩ :
      ∃ summary, run .standard unwrittenSlots (breakingOver .zero) bareProxy =
        some summary := ⟨_, rfl⟩
  have hreport := run_reports h
  refine ⟨summary, h, ?_, fun hn => ?_⟩
  · let p : Record :=
      ⟨Config.standard.proxyArtifact, .ofNat 0x4200000000000000000000000000000000000015, 200, false⟩
    refine ⟨.failed p.key unresolved, hreport.perm.mem_iff.mpr ?_, .verified p,
      hreport.perm.mem_iff.mpr ?_, rfl, rfl, rfl⟩
    · -- The proxy is left over, since its slot was never written.
      exact List.mem_append_left _ List.mem_cons_self
    · -- It is submitted as well, since every proxy is.
      exact List.mem_append_right _ List.mem_cons_self
  · rw [hreport.nodup_keys_iff_not_mem] at hn
    refine hn _ List.mem_cons_self (implementation_unwrittenSlots _) ?_
    exact (WorkList.mem_keys_dispatch_iff_of_unresolved _ _ _ List.mem_cons_self).mpr (.inl rfl)

/-! ## Two runs on one topology -/

section

variable {c : Config} {look₁ look₂ : Record → Lookup} {service₁ service₂ : Service} {t : Topology}
  {report₁ report₂ : Report}

/-- The work list does not depend on how many records may be submitted at the same time, nor on
lookups of anything but the proxies. -/
theorem WorkList.ofLookups_congr (n : Nat) (hlook : ∀ p ∈ t.proxies, look₁ p = look₂ p) :
    ofLookups { c with maxConcurrency := n } t look₂ = ofLookups c t look₁ := by
  have hmap : (t.proxies.map fun p => Resolution.ofLookup p (look₂ p)) =
      t.proxies.map fun p => .ofLookup p (look₁ p) :=
    List.map_congr_left fun p hp => by rw [hlook p hp]
  rw [ofLookups, hmap]
  rfl

/-- **The report of a run is determined** by the topology, the lookups and the answers: neither the
order in which the lookups end, nor the interleaving of the submissions, nor the number of permits
changes it. -/
theorem Reports.deterministic {n : Nat} (hlook : ∀ p ∈ t.proxies, look₁ p = look₂ p)
    (hanswers : ∀ r k, service₁.answers r k = service₂.answers r k)
    (h₁ : Reports c look₁ service₁ t report₁)
    (h₂ : Reports { c with maxConcurrency := n } look₂ service₂ t report₂) :
    report₁ = report₂ := by
  obtain ⟨s₁, results₁, hd₁, rfl⟩ := h₁.exists_dispatches
  obtain ⟨s₂, results₂, hd₂, rfl⟩ := h₂.exists_dispatches
  -- Both runs have the same work list, which does not depend on the permits.
  rw [WorkList.ofLookups_congr n hlook] at hd₂ ⊢
  have hn := WorkList.nodup_keys_dispatch c t look₁
  have hservice : service₁.answers = service₂.answers := by
    funext r k
    exact hanswers r k
  -- The results of each run are those of the courses, in some order.
  have hperm : results₁.Perm results₂ := by
    have hperm₁ := hd₁.perm hn
    rw [hservice] at hperm₁
    exact hperm₁.trans (hd₂.perm hn).symm
  exact Report.extend_eq_of_perm _ hperm ((hd₁.keys_perm hn).nodup_iff.mpr hn)

/-- The same lookups, each after a while. -/
def slowLookups (delay : Nat) (look : Record → TimedLookup) : Record → TimedLookup :=
  fun p => ⟨delay, (look p).lookup⟩

/-- The same answers, each after a while. -/
def slowAnswers (delay : Nat) (service : Service) : Service :=
  fun r k => ⟨delay, (service r k).answer⟩

/-- One task at a time, and slower lookups, give the same report. -/
theorem deterministic_smallTopology :
    ∃ a b, run .standard unwrittenSlots (breakingOver (.ofNat 2)) smallTopology = some a ∧
      run { Config.standard with maxConcurrency := 1 } (slowLookups 7 unwrittenSlots)
        (slowAnswers 5 (breakingOver (.ofNat 2))) smallTopology = some b ∧
      a.report = b.report := by
  obtain ⟨a, ha⟩ :
      ∃ a, run .standard unwrittenSlots (breakingOver (.ofNat 2)) smallTopology = some a := ⟨_, rfl⟩
  obtain ⟨b, hb⟩ :
      ∃ b, run { Config.standard with maxConcurrency := 1 } (slowLookups 7 unwrittenSlots)
        (slowAnswers 5 (breakingOver (.ofNat 2))) smallTopology = some b := ⟨_, rfl⟩
  have hlook : ∀ p ∈ smallTopology.proxies,
      (unwrittenSlots p).lookup = (slowLookups 7 unwrittenSlots p).lookup := fun _ _ => rfl
  have hanswers : ∀ r k, (breakingOver (.ofNat 2)).answers r k =
      (slowAnswers 5 (breakingOver (.ofNat 2))).answers r k := fun _ _ => rfl
  have hslow := run_reports hb
  exact ⟨a, b, ha, hb, Reports.deterministic hlook hanswers (run_reports ha) hslow⟩

/-- **What becomes of other records does not touch a record.** If two services answer a record in
the same way, then both reports hold the outcome of its course, have the same outcomes under its
key, and have the same keys. -/
theorem Reports.isolated {r : Record} (hr : r ∈ (WorkList.ofLookups c t look₁).dispatch)
    (hanswers : ∀ k, service₁.answers r k = service₂.answers r k)
    (h₁ : Reports c look₁ service₁ t report₁) (h₂ : Reports c look₁ service₂ t report₂) :
    (c.retry.course r (service₁.answers r)).settle r ∈ report₁.outcomes ∧
    (c.retry.course r (service₁.answers r)).settle r ∈ report₂.outcomes ∧
    Report.ofKey r.key report₁.outcomes = Report.ofKey r.key report₂.outcomes ∧
    report₁.outcomes.map Outcome.key = report₂.outcomes.map Outcome.key := by
  have hservice : service₁.answers r = service₂.answers r := funext hanswers
  refine ⟨h₁.perm.mem_iff.mpr ?_, h₂.perm.mem_iff.mpr ?_, ?_, ?_⟩
  · exact List.mem_append_right _ (List.mem_map_of_mem hr)
  · rw [hservice]
    exact List.mem_append_right _ (List.mem_map_of_mem hr)
  · -- What comes of a record is said by its own course, in both runs.
    obtain ⟨s₁, results₁, hd₁, rfl⟩ := h₁.exists_dispatches
    obtain ⟨s₂, results₂, hd₂, rfl⟩ := h₂.exists_dispatches
    have hn := WorkList.nodup_keys_dispatch c t look₁
    rw [WorkList.ofKey_report, WorkList.ofKey_report, hd₁.ofKey_eq hn hr, hd₂.ofKey_eq hn hr,
      hservice]
  · exact Report.keys_eq_of_perm h₁.sorted h₂.sorted (h₁.keys_perm.trans h₂.keys_perm.symm)

/-- The proxy of the small topology, as it is submitted. -/
def submittedProxy : Record := ⟨Config.standard.proxyArtifact, .ofNat 1, 200, false⟩

/-- A task that is lost leaves the other results as they are. -/
theorem isolated_smallTopology :
    ∃ a b, run .standard unwrittenSlots (breakingOver (.ofNat 2)) smallTopology = some a ∧
      run .standard unwrittenSlots (breakingOver .zero) smallTopology = some b ∧
      .verified submittedProxy ∈ a.report.outcomes ∧
      .verified submittedProxy ∈ b.report.outcomes := by
  obtain ⟨a, ha⟩ :
      ∃ a, run .standard unwrittenSlots (breakingOver (.ofNat 2)) smallTopology = some a := ⟨_, rfl⟩
  obtain ⟨b, hb⟩ :
      ∃ b, run .standard unwrittenSlots (breakingOver .zero) smallTopology = some b := ⟨_, rfl⟩
  -- The two services disagree on another record only.
  have hr : submittedProxy ∈
      (WorkList.ofLookups .standard smallTopology fun p => (unwrittenSlots p).lookup).dispatch := by
    decide
  have hanswers : ∀ k, (breakingOver (.ofNat 2)).answers submittedProxy k =
      (breakingOver .zero).answers submittedProxy k := fun _ => rfl
  obtain ⟨hmem, hmem', -, -⟩ := Reports.isolated hr hanswers (run_reports ha) (run_reports hb)
  exact ⟨a, b, ha, hb, hmem, hmem'⟩

end

end Rollup.Verify
