/-
Why a request to a chain node failed, and whether it may succeed when it is
repeated.

A failure is transient if it comes from the connection, from a gateway, from a
limit on the rate of requests, or from a deadline. It is permanent if the node
understood the request and refused it, or if its answer cannot be used. A failure
that stayed through all attempts is permanent, whatever the last one was.
-/
import Rollup.Duration
import Rollup.SystemError

set_option autoImplicit false

namespace Rollup.Chain

/-! ## Causes behind a failed connection -/

/-- One error in a chain of causes. -/
inductive Link where
  /-- An error with a text of its own, behind which stands its cause. -/
  | wrapper (text : String)
  /-- A failure of the system, which speaks with the words of its cause if it has one. -/
  | system (kind : FailureKind)
  /-- A text, which has no cause. -/
  | text (content : String)
  deriving DecidableEq, Repr

/-- The words of a chain of causes, from the outermost one on. -/
def causeMessage : List Link → String
  | [] => ""
  | .wrapper text :: _ => text
  | .text content :: _ => content
  | [.system kind] => kind.message
  | .system _ :: cause => causeMessage cause

/-- Whether the outermost failure of the system in a chain is one of the connection. -/
def isConnectionFailure : List Link → Bool
  | [] => false
  | .wrapper _ :: cause => isConnectionFailure cause
  | .system kind :: _ => kind.isConnection
  | .text _ :: _ => false

/-! ## Failures of the transport -/

/-- Why the transport has no result for a request. -/
inductive TransportError where
  /-- The server answered with a status that is no success. -/
  | http (status : Nat) (body : String)
  /-- The task behind the connection has ended. -/
  | backendGone
  /-- The connection cannot carry subscriptions. -/
  | noSubscriptions
  /-- A batch was answered without an answer to one of its requests. -/
  | missingResponse (id : String)
  /-- Any other failure, with its causes from the outside in. -/
  | custom (chain : List Link)
  /-- The result is null where a value has to be. -/
  | nullResponse
  | unsupported (feature : String)
  | localUsage (text : String)
  /-- The request could not be written. -/
  | serialization
  /-- The answer could not be read. -/
  | deserialization
  /-- The node answered with an error; `data` is what it attached, as JSON in one line. -/
  | response (code : Int) (message : String) (data : Option String)
  deriving DecidableEq, Repr

/-- The failure in words. -/
def TransportError.message : TransportError → String
  | .http status body =>
    "HTTP error " ++ Text.decimal status ++
      if body = "" then " with empty body" else " with body: " ++ body
  | .backendGone => "backend connection task has stopped"
  | .noSubscriptions => "subscriptions are not available on this provider"
  | .missingResponse id => "missing response for request with ID " ++ id
  | .custom chain => causeMessage chain
  | .nullResponse => "server returned a null response when a non-null response was expected"
  | .unsupported feature => "unsupported feature: " ++ feature
  | .localUsage text => "local usage error: " ++ text
  | .serialization => "serialization error"
  | .deserialization => "deserialization error"
  | .response code message data =>
    "server returned an error response: error code " ++ Text.signedDecimal code ++ ": " ++
      message ++ data.elim "" (", data: " ++ ·)

/-- Whether a text occurs within another. -/
def occursIn (part : List Char) : List Char → Bool
  | [] => part.isEmpty
  | c :: rest => part.isPrefixOf (c :: rest) || occursIn part rest

/-- Whether a message has a phrase in it. -/
def mentions (message phrase : String) : Bool := occursIn phrase.toList message.toList

/-- The codes of errors that always ask to slow down. -/
def limitCodes : List Int := [429, -32005, 1008, -32055]

/-- The codes of errors that ask to slow down if their message has a phrase in it. -/
def limitCodePhrases : List (Int × String) :=
  [(-32016, "rate limit"), (-32012, "credits"), (-32007, "request limit reached")]

/-- The messages that ask to come back later, whatever their code. -/
def limitMessages : List String :=
  ["header not found", "daily request count exceeded, request rate limited"]

/-- The phrases that ask to slow down wherever they occur. -/
def limitPhrases : List String :=
  ["rate limit", "rate exceeded", "too many requests", "credits limited", "request limit",
    "maximum number of concurrent requests"]

/-- Whether an error of the node is about the rate of requests. -/
def isRateLimit (code : Int) (message : String) : Bool :=
  code ∈ limitCodes || limitCodePhrases.any (fun c => code = c.1 && mentions message c.2) ||
    message ∈ limitMessages || limitPhrases.any (mentions message)

/-- Whether a status of a server says that the request may be repeated. -/
def isTransientStatus (status : Nat) : Bool :=
  status = 408 || status = 429 || (500 ≤ status && status ≤ 599)

/-- Whether the request may succeed when it is repeated. -/
def TransportError.isTransient : TransportError → Bool
  | .http status _ => isTransientStatus status
  | .backendGone => true
  | .custom chain => isConnectionFailure chain
  | .response code message _ => isRateLimit code message
  | _ => false

end Rollup.Chain

namespace Rollup

/-! ## Failures of requests -/

/-- Why a request to a chain node failed. -/
inductive ChainError where
  | transport (cause : Chain.TransportError)
  /-- The node did not answer in time. -/
  | timeout (limit : Duration)
  /-- A transient failure stayed through every attempt. -/
  | exhausted (method : String) (attempts : Nat) (last : ChainError)
  /-- A call returned fewer bytes than its result takes. -/
  | decode (what : String)
  /-- The node cannot serve the request now. -/
  | unavailable (text : String)
  /-- The node refused the request. -/
  | rejected (text : String)
  deriving DecidableEq

namespace ChainError

/-- The failure in words. -/
def message : ChainError → String
  | .transport cause => cause.message
  | .timeout limit => "request timed out after " ++ limit.text
  | .exhausted method attempts last =>
    method ++ " failed after " ++ Text.decimal attempts ++ " attempts: " ++ last.message
  | .decode what =>
    "failed to decode " ++ what ++
      ": ABI decoding failed: buffer overrun while deserializing"
  | .unavailable text => "node unavailable: " ++ text
  | .rejected text => "request rejected: " ++ text

/-- Whether the request may succeed when it is repeated. -/
def isTransient : ChainError → Bool
  | .transport cause => cause.isTransient
  | .timeout _ => true
  | .unavailable _ => true
  | .exhausted _ _ _ => false
  | .decode _ => false
  | .rejected _ => false

end ChainError

end Rollup
