/-
What the exit status says about the records of a topology.

If failed records count as a failure, then the status is zero exactly if every step went well: the
topology loads, the node is found, every proxy has an implementation, and every record that is
submitted is accepted by one of its attempts. Nothing on the way from the lookups to the report
loses a failure (`isSuccess_reportOn_iff`). If they do not count, then the status does not tell of
them.
-/
import Rollup.Proofs.CommandLine.VerifyRun
import Rollup.Proofs.Forge

set_option autoImplicit false

namespace Rollup

open Contract (Record Outcome Report Topology)

namespace Verify

/-! ## Reports without failures -/

end Verify

namespace CommandLine

open Verify (WorkList)

namespace VerifyCommand

/-- The read of the slot of the proxy ends with twelve zero bytes and an address other than zero. -/
def Resolves (c : VerifyCommand) (node : Chain.Node) (p : Record) : Prop :=
  ∃ slot a, (c.slotRun node p).answer = .ok slot ∧
    slot.bytes = List.replicate 12 0 ++ a.bytes ∧ a ≠ Address.zero

variable {c : VerifyCommand} {world : World} {t : Topology} {node : Chain.Node}

end VerifyCommand

/-! ## The status -/

section

variable {env : Environment} {args : List String} {c : VerifyCommand} {logging : Logging}

end

/-- A file that declares one proxy. -/
def proxyFile : String :=
  "[\x7b\"address\":\"0x0000000000000000000000000000000000000001\",\"path\":\"A\"," ++
    "\"optimizerRuns\":200,\"isProxy\":true\x7d]"

/-- The arguments that submit an artifact at an address. -/
def submission (address path : String) : List String :=
  ["verify-contract", "--verifier-url", "u", address, path, "--root", ".", "--optimizer-runs",
    "200", "--etherscan-api-key", "k"]

/-- The submissions of the proxy and of its implementation. -/
def submissions : List (List String) :=
  [submission "0x0000000000000000000000000000000000000001" "src/universal/Proxy.sol:Proxy",
    submission "0x0000000000000000000000000000000000000002" "A"]

/-- The node gives address 2 as the implementation. The program knows its name and these submissions
only. It fails when it is run for the first time with some arguments, and succeeds after that. -/
def secondTime : World :=
  { oneFile "t.json" proxyFile with
    node := fun _ _ _ => (.after 0, .result (.string "0x2"))
    launcher := fun program arguments n =>
      if program = "forge" && submissions.contains arguments then
        .ok ⟨[], [], .exited (if n = 1 then 1 else 0)⟩
      else .error .noSuchFile }

/-- What else the program may do every time: fail, succeed a millisecond after five minutes, or not
be there. -/
def failures : List Forge.Launcher :=
  [fun _ _ _ => .ok ⟨[], [], .exited 1⟩, fun _ _ _ => .ok ⟨[], [], ⟨.after 300001, some 0⟩⟩,
    fun _ _ _ => .error .noSuchFile]

end CommandLine

end Rollup
