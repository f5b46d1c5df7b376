/-
How the command that verifies a topology ends.

It fails before it has done anything if the topology does not load, or if there are proxies and
no node to ask. Otherwise it prints one report, which is the report of every run of the topology
on this node and with this program (`report_eq_of_reports`), unless so many records may be
submitted at the same time that their permits cannot be counted.
-/
import Mathlib.Algebra.GroupWithZero.Nat
import Rollup.CommandLine.Program
import Rollup.Proofs.CommandLine.Session
import Rollup.Proofs.CommandLine.VerifyFlags
import Rollup.Proofs.Verify.Planning
import Rollup.Proofs.Verify.Reports

set_option autoImplicit false

namespace Rollup.CommandLine

open Contract (Record Outcome Report Topology)
open Verify (Lookup Reports Service WorkList)

namespace VerifyCommand

variable {c : VerifyCommand} {world : World} {t : Topology} {node : Chain.Node} {s : Transcript}

/-! ## The node -/

/-- The slots of the topology are read from this node, if there is any to read. -/
def Connects (c : VerifyCommand) (world : World) (t : Topology) (node : Chain.Node) : Prop :=
  t.hasProxies = true → ∃ url endpoint, c.node.url = some url ∧
    Chain.Endpoint.connect url = .ok endpoint ∧ world.node endpoint = node

/-- A node that is named is connected to. -/
theorem run_connect {url : String} {endpoint : Chain.Endpoint} (hurl : c.node.url = some url)
    (hendpoint : Chain.Endpoint.connect url = .ok endpoint) :
    (c.connect world).run s = (.ok (world.node endpoint), s) := by
  simp only [connect, hurl, hendpoint]
  rfl

/-- A topology without proxies has none to look up. -/
theorem proxies_eq_nil (h : t.hasProxies = false) : t.proxies = [] := by
  rw [Topology.proxies, List.filter_eq_nil_iff]
  intro r hr
  exact Bool.not_eq_true _ ▸ List.any_eq_false.mp h r hr

/-- Without proxies no lookup makes a difference to the work list. -/
theorem plan_of_no_proxies (h : t.hasProxies = false) (look look' : Record → Verify.TimedLookup) :
    Verify.plan c.config t look = Verify.plan c.config t look' := by
  rw [Verify.plan_eq_ofLookups, Verify.plan_eq_ofLookups, WorkList.ofLookups, WorkList.ofLookups,
    proxies_eq_nil h]
  rfl

/-- Nothing is printed, and without proxies no request is sent. -/
structure Quiet (t : Topology) (s s' : Transcript) : Prop where
  lines : s'.lines = s.lines
  requests : t.hasProxies = false → s'.requests = s.requests

/-- The work list is made with the answers of the node, and nothing is asked if there are no
proxies. -/
theorem run_plan (h : c.Connects world t node) (s : Transcript) :
    ∃ s', (c.plan world t).run s = (.ok (Verify.plan c.config t (c.lookup node)), s') ∧
      Quiet t s s' := by
  unfold plan
  by_cases hproxies : t.hasProxies = true
  · obtain ⟨url, endpoint, hurl, hendpoint, rfl⟩ := h hproxies
    rw [if_pos hproxies, Action.run_bind_ok (run_connect hurl hendpoint)]
    exact ⟨_, rfl, rfl, fun hnone => absurd (hproxies.symm.trans hnone) nofun⟩
  · have hnone : t.hasProxies = false := Bool.eq_false_of_not_eq_true hproxies
    -- Nothing is looked up, so the work list is the same for all lookups.
    rw [if_neg hproxies, Action.run_ofExcept, plan_of_no_proxies hnone _ (c.lookup node)]
    exact ⟨s, rfl, rfl, fun _ => rfl⟩

/-- Without proxies any node will do. -/
theorem connects_of_no_proxies (h : t.hasProxies = false) (node : Chain.Node) :
    c.Connects world t node := fun hproxies => absurd (hproxies.symm.trans h) nofun

/-- The report on a topology whose slots are read from this node. -/
def reportOn (c : VerifyCommand) (world : World) (t : Topology) (node : Chain.Node) : Report :=
  let work := Verify.plan c.config t (c.lookup node)
  work.report (work.dispatch.map fun r => (c.course world r).settle r)

/-- A record is submitted as its course says, and every run of the program is written down. -/
theorem run_submit (r : Record) : (c.submit world r).run s = (.ok ((c.course world r).settle r),
    { s with programs := s.programs ++
        List.replicate (c.starts world r) (c.forgeConfig.program, c.forgeConfig.arguments r) }) := by
  rw [submit, Action.run_bind_ok (Action.run_start _ _ _), Action.run_ofExcept]

/-- There are too many permits from 2 ^ 61 on. -/
theorem permits?_eq_none_iff : c.config.permits? = none ↔ 2 ^ 61 ≤ c.concurrency.toNat := by
  rw [Verify.Config.permits?]
  change (if max 1 c.concurrency.toNat ≤ Verify.permitLimit then _ else none) = none ↔ _
  unfold Verify.permitLimit
  split <;> simp only [reduceCtorEq, true_iff, false_iff] <;> omega

/-- With a connection, and permits for it, the run ends with a report. -/
theorem run_report (h : c.Connects world t node) (hpermits : c.concurrency.toNat < 2 ^ 61)
    (s : Transcript) :
    ∃ s', (c.report world t).run s = (.ok (c.reportOn world t node), s') ∧ Quiet t s s' := by
  obtain ⟨s', hplan, hquiet⟩ := run_plan h s
  rw [report, Action.run_bind_ok hplan]
  rcases hp : c.config.permits? with _ | permits
  · rw [permits?_eq_none_iff] at hp
    omega
  · exact ⟨_, Action.run_bind_ok (Action.run_mapM (fun r _ => run_submit r) _), hquiet.lines,
      hquiet.requests⟩

/-- With too many permits the run crashes before anything is submitted. -/
theorem run_report_crash (h : c.Connects world t node) (hpermits : 2 ^ 61 ≤ c.concurrency.toNat)
    (s : Transcript) :
    ∃ s', (c.report world t).run s = (.error .crash, s') ∧ Quiet t s s' := by
  obtain ⟨s', hplan, hquiet⟩ := run_plan h s
  refine ⟨s', ?_, hquiet⟩
  rw [report, Action.run_bind_ok hplan, permits?_eq_none_iff.mpr hpermits]
  rfl

/-! ## The command -/

/-- Behind the topology come the report, what is shown of it, and the status. -/
theorem run_of_loaded (hload : Topology.load world.files c.topology = .ok t) :
    (c.run world).run s = (do
      let report ← c.report world t
      Action.print (c.shown report)
      Action.ofExcept (.ok (if c.failOnError && !report.isSuccess then 1 else 0)) :
        Verifying Nat).run s := by
  rw [run, hload]
  rfl

/-- With a connection and permits the report is printed, and its status is the one of the
command. -/
theorem run_of_permits (hload : Topology.load world.files c.topology = .ok t)
    (h : c.Connects world t node) (hpermits : c.concurrency.toNat < 2 ^ 61) (s : Transcript) :
    ∃ s', (c.run world).run s =
        (.ok (if c.failOnError && !(c.reportOn world t node).isSuccess then 1 else 0), s') ∧
      s'.lines = s.lines ++ [c.shown (c.reportOn world t node)] ∧
      (t.hasProxies = false → s'.requests = s.requests) := by
  obtain ⟨s', hreport, hquiet⟩ := run_report h hpermits s
  rw [run_of_loaded hload, Action.run_bind_ok hreport, Action.run_bind_ok (Action.run_print _)]
  refine ⟨_, rfl, ?_, hquiet.requests⟩
  rw [hquiet.lines]

/-- With too many permits nothing is printed. -/
theorem run_of_crash (hload : Topology.load world.files c.topology = .ok t)
    (h : c.Connects world t node) (hpermits : 2 ^ 61 ≤ c.concurrency.toNat) (s : Transcript) :
    ∃ s', (c.run world).run s = (.error .crash, s') ∧ Quiet t s s' := by
  obtain ⟨s', hreport, hquiet⟩ := run_report_crash h hpermits s
  refine ⟨s', ?_, hquiet⟩
  rw [run_of_loaded hload, Action.run_bind_error hreport]

/-! ## Every run of the topology -/

/-- **The report is that of every run** of the topology on this node and with this program, whatever
the order in which the lookups and the submissions end, and however long they take. -/
theorem report_eq_of_reports {service : Service} {report : Report}
    (hservice : ∀ r, service.answers r = c.forgeConfig.answer world.launcher r)
    (h : Reports c.config (fun p => (c.lookup node p).lookup) service t report) :
    report = c.reportOn world t node := by
  obtain ⟨s, results, hd, rfl⟩ := h.exists_dispatches
  have hn := WorkList.nodup_keys_dispatch c.config t fun p => (c.lookup node p).lookup
  have hperm := hd.perm hn
  simp only [hservice] at hperm
  rw [reportOn, Verify.plan_eq_ofLookups]
  -- The outcomes are those of one work list, and a report does not depend on their order.
  exact Report.extend_eq_of_perm _ hperm ((hd.keys_perm hn).nodup_iff.mpr hn)

end VerifyCommand

/-! ## The whole program -/

section

variable {env : Environment} {world : World} {args : List String} {c : VerifyCommand}
  {logging : Logging} {s : Transcript}

/-- The program runs the command that its arguments name. -/
theorem run_of_parse (hparse : parse env args = .ok ⟨.verify c, logging⟩) :
    run env world args = (Command.verify c).run world := by
  rw [run, hparse]

/-- A command that ends with a status ends the program with it. -/
theorem run_verify_of_ok {status : Nat}
    (h : (c.run world).run .empty = (.ok status, s)) :
    (Command.verify c).run world = (.finished status, s) := by
  rw [Command.run, h]

/-- A command that fails ends the program with its failure. -/
theorem run_verify_of_error {e : VerifyFailure}
    (h : (c.run world).run .empty = (.error e, s)) :
    (Command.verify c).run world = (.verifyFailed e, s) := by
  rw [Command.run, h]

/-- **When verifying a topology ends**: exactly if fewer than `2 ^ 61` records may be submitted at
the same time. Then a report is printed, the one of every run of the topology on this node and with
this program, and the status is zero or one, whatever becomes of single records. Otherwise the
program breaks down and prints nothing. -/
theorem verify_ends_iff (hparse : parse env args = .ok ⟨.verify c, logging⟩)
    {t : Topology} (hload : Topology.load world.files c.topology = .ok t) {node : Chain.Node}
    (hnode : c.Connects world t node) :
    (∀ look service, (Verify.run c.config look service t).isSome = true ↔
      c.concurrency.toNat < 2 ^ 61) ∧
    (c.concurrency.toNat < 2 ^ 61 → ∃ status report, status ≤ 1 ∧
      (run env world args).1 = .finished status ∧
      (run env world args).2.lines = [c.shown report] ∧
      ∀ service : Service, (∀ r, service.answers r = c.forgeConfig.answer world.launcher r) →
        ∃ summary, Verify.run c.config (c.lookup node) service t = some summary ∧
          summary.report = report) ∧
    (2 ^ 61 ≤ c.concurrency.toNat → (run env world args).1 = .verifyFailed .crash ∧
      (run env world args).1.status = 101 ∧ (run env world args).2.lines = []) := by
  have hsome (look service) : (Verify.run c.config look service t).isSome = true ↔
      c.concurrency.toNat < 2 ^ 61 := by
    rw [Verify.isSome_run_iff]
    change max 1 c.concurrency.toNat ≤ Verify.permitLimit ↔ _
    unfold Verify.permitLimit
    omega
  rw [run_of_parse hparse]
  refine ⟨hsome, fun hpermits => ?_, fun hpermits => ?_⟩
  · obtain ⟨s, hrun, hlines, -⟩ := VerifyCommand.run_of_permits hload hnode hpermits .empty
    rw [run_verify_of_ok hrun]
    refine ⟨_, c.reportOn world t node, ?_, rfl, hlines, fun service hservice => ?_⟩
    · split <;> decide
    · -- Every run of the scheduler makes the same report, and so it makes this one.
      obtain ⟨summary, hsummary⟩ := Option.isSome_iff_exists.mp ((hsome _ service).mpr hpermits)
      refine ⟨summary, hsummary, ?_⟩
      exact VerifyCommand.report_eq_of_reports hservice (Verify.run_reports hsummary)
  · obtain ⟨s, hrun, hquiet⟩ := VerifyCommand.run_of_crash hload hnode hpermits .empty
    rw [run_verify_of_error hrun]
    exact ⟨rfl, rfl, hquiet.lines⟩

end

/-- No variables are set. -/
def emptyEnvironment : Environment := ⟨none, none, none⟩

/-- One file with this text. No node answers, and no program can be started. -/
def oneFile (path text : String) : World :=
  ⟨⟨fun p => if p = path then .ok (.file (Bytes.ofText text.toList)) else .error .noSuchFile⟩,
    Chain.Endpoint.closed, fun _ _ _ => .error .noSuchFile⟩

/-- Arguments that ask for so many submissions at the same time. -/
def verifyAtOnce (count : String) : List String :=
  ["verify", "t.json", "--verifier-url", "u", "--api-key", "k", "-j", count]

/-- The greatest count at which verifying an empty topology ends. -/
theorem verify_ends_atLimit :
    ∃ c logging, parse emptyEnvironment (verifyAtOnce "2305843009213693951") =
        .ok ⟨.verify c, logging⟩ ∧
      Topology.load (oneFile "t.json" "[]").files c.topology = .ok .empty ∧
      ∃ status report, status ≤ 1 ∧
        (run emptyEnvironment (oneFile "t.json" "[]") (verifyAtOnce "2305843009213693951")).1 =
          .finished status ∧
        (run emptyEnvironment (oneFile "t.json" "[]")
          (verifyAtOnce "2305843009213693951")).2.lines = [c.shown report] := by
  obtain ⟨c, logging, hparse, htopology, hcount⟩ : ∃ c logging,
      parse emptyEnvironment (verifyAtOnce "2305843009213693951") = .ok ⟨.verify c, logging⟩ ∧
      c.topology = "t.json" ∧ c.concurrency.toNat < 2 ^ 61 := ⟨_, _, rfl, rfl, by decide⟩
  have hload : Topology.load (oneFile "t.json" "[]").files c.topology = .ok .empty := by
    rw [htopology]
    rfl
  -- There are no proxies, so no node is needed.
  have hnode : c.Connects (oneFile "t.json" "[]") .empty (Chain.Endpoint.failing []) :=
    VerifyCommand.connects_of_no_proxies rfl _
  obtain ⟨-, hends, -⟩ := verify_ends_iff hparse hload hnode
  obtain ⟨status, report, hstatus, hending, hlines, -⟩ := hends hcount
  exact ⟨c, logging, hparse, hload, status, report, hstatus, hending, hlines⟩

/-- At the next greater count, which is accepted as well, the same command breaks down. -/
theorem verify_breaks_beyondLimit :
    ∃ c logging, parse emptyEnvironment (verifyAtOnce "2305843009213693952") =
        .ok ⟨.verify c, logging⟩ ∧
      Topology.load (oneFile "t.json" "[]").files c.topology = .ok .empty ∧
      Topology.empty.hasProxies = false ∧
      (∀ look service, Verify.run c.config look service .empty = none) ∧
      (run emptyEnvironment (oneFile "t.json" "[]") (verifyAtOnce "2305843009213693952")).1.status =
        101 ∧
      (run emptyEnvironment (oneFile "t.json" "[]") (verifyAtOnce "2305843009213693952")).2.lines =
        [] :=
  ⟨_, _, rfl, rfl, rfl, fun _ _ => rfl, rfl, rfl⟩

end Rollup.CommandLine
