/-
Why a submission to a verification service did not succeed.

A program that cannot be started never will be; after any other failure the record
may be submitted again.
-/
import Rollup.Duration
import Rollup.SystemError

set_option autoImplicit false

namespace Rollup.Verify

/-- Why one submission did not succeed. -/
inductive Failure where
  /-- The program that submits could not be started. -/
  | spawn (program : String) (cause : SystemError)
  /-- It did not end in time. -/
  | timeout (limit : Duration)
  /-- It ended without success: with a status, or by a signal. -/
  | rejected (status : Option Int) (output : String)
  /-- The service reported an error. -/
  | service (text : String)
  deriving DecidableEq

/-- The end of a program in words. -/
def statusText : Option Int → String
  | some code => "status " ++ Text.signedDecimal code
  | none => "a signal"

namespace Failure

/-- The failure in words. -/
def message : Failure → String
  | .spawn program cause => "failed to run \x60" ++ program ++ "\x60: " ++ cause.message
  | .timeout limit => "verification timed out after " ++ limit.text
  | .rejected status output => "verifier exited with " ++ statusText status ++ ": " ++ output
  | .service text => "verification service error: " ++ text

/-- Whether the record may be submitted again. -/
def isRetryable : Failure → Bool
  | .spawn _ _ => false
  | _ => true

end Failure

end Rollup.Verify
