/-
  Why discovery fails.

  * `RequestFault`: why a request got no usable answer;
  * `Failure`: why a source could not report its devices.  A stale failure and an aggregate carry
    the devices which may be used all the same;
  * `Failure.devices` are the devices which a failure carries;
  * `Failure.isStale` says that everything behind a failure was covered by earlier results;
  * `Failure.message` is the text of a failure.
-/
import TailnetTargets.Device.Basic
import TailnetTargets.Json.Decode
import TailnetTargets.Text.Quoted

namespace TailnetTargets

/-- Why a request got no usable answer. -/
inductive RequestFault where
  /-- the request could not be put together, for this address if one could be made at all -/
  | unusable (url : Option String)
  /-- the request was not answered -/
  | unanswered (url : String)
  /-- the body of the answer was cut short -/
  | bodyUndecoded
  /-- nothing listens -/
  | notConnected
  /-- the connection was lost, or the answer is none -/
  | connectionLost
  /-- the connection was lost within the body of the answer -/
  | bodyLost
  /-- the answer took too long -/
  | timedOut
  /-- another reason -/
  | other (reason : String)
deriving DecidableEq, Repr

/-- The text of the reason. -/
def RequestFault.message : RequestFault → String
  | unusable none => "builder error"
  | unusable (some url) => s!"builder error for url ({url})"
  | unanswered url => s!"error sending request for url ({url})"
  | bodyUndecoded => "error decoding response body"
  | notConnected => "client error (Connect)"
  | connectionLost => "client error (SendRequest)"
  | bodyLost => "error reading a body from connection"
  | timedOut => "request timed out"
  | other reason => reason

/-- Why a source could not report its devices. -/
inductive Failure where
  /-- the request could not be completed -/
  | request (api : String) (cause : RequestFault)
  /-- the answer has a status which is not one of success -/
  | unexpectedStatus (api : String) (status : Nat)
  /-- the body of the answer does not have the wanted form -/
  | payload (api : String) (cause : JsonError)
  /-- the call was canceled -/
  | canceled
  /-- the task of the call ended without a result: with a panic and its text, or by force -/
  | lost (panic : Option String)
  /-- the source failed, and its last results stand in -/
  | stale (devices : List Device) (cause : Failure)
  /-- sources failed, and these are the devices of all sources -/
  | aggregate (devices : List Device) (causes : List Failure)

namespace Failure

/-- The devices which a failure carries. -/
def devices : Failure → List Device
  | stale devices _ | aggregate devices _ => devices
  | _ => []

mutual

/-- Whether everything behind the failure was covered by earlier results. -/
def isStale : Failure → Bool
  | stale _ _ => true
  | aggregate _ causes => !causes.isEmpty && allStale causes
  | _ => false

/-- Whether everything behind all failures was covered by earlier results. -/
def allStale : List Failure → Bool
  | [] => true
  | cause :: rest => isStale cause && allStale rest

end

/-- Whether the failure is one of the request itself. -/
def isRequestFailure : Failure → Bool
  | request .. | unexpectedStatus .. => true
  | _ => false

/-- Whether the failure is one of the body of the answer. -/
def isPayloadFailure : Failure → Bool
  | payload .. => true
  | _ => false

/-- Whether a single cause lies behind the failure. -/
def hasCause : Failure → Bool
  | request .. | payload .. | lost .. | stale .. => true
  | _ => false

mutual

/-- The text of a failure.  What exactly is wrong with a payload, and which task was lost, is left
    open in the text. -/
def message : Failure → String
  | request api cause => s!"failed request to {api}: {cause.message}"
  | unexpectedStatus api status => s!"failed request to {api}: unexpected status {status}"
  | payload api _ => s!"unparseable response from {api}: <detail>"
  | canceled => "discovery canceled"
  | lost none => "discovery task failed: task N was cancelled"
  | lost (some panic) =>
    s!"discovery task failed: task N panicked with message {Text.quoted panic}"
  | stale _ cause => "stale discovery results: " ++ message cause
  | aggregate _ causes => "\n".intercalate (messages causes)

/-- The texts of failures. -/
def messages : List Failure → List String
  | [] => []
  | cause :: rest => message cause :: messages rest

end

end Failure

end TailnetTargets
