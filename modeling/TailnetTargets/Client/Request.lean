/-
  Requests and what comes back.

  * `Request`: what is asked of an interface;
  * `Reply`: what comes back, if anything does;
  * `TransportFaults`: how an interface names the ways in which a reply can be missing;
  * `Reply.body` is the body of a reply of success;
  * `Reply.decode` is the value which that body holds;
  * `accounting` lists what is counted when a call of an interface ends.
-/
import TailnetTargets.Failure
import TailnetTargets.Metrics.Registry

namespace TailnetTargets

/-- How something is asked of an interface. -/
inductive Method where
  /-- to be told something -/
  | get
  /-- to have something done -/
  | post
deriving DecidableEq, Repr

/-- What is asked of an interface. -/
structure Request where
  /-- how it is asked -/
  method : Method
  /-- what is asked for -/
  target : String
  /-- the host which is asked -/
  host : String
  /-- whether the request is sent in the clear -/
  isPlain : Bool
  /-- the forms of answer which are understood -/
  accept : Option String := none
  /-- what proves who sends the request -/
  authorization : Option String := none
  /-- the form of the body -/
  contentType : Option String := none
  /-- the body -/
  body : Option String := none
deriving DecidableEq, Repr

/-- What comes back. -/
inductive Reply where
  /-- nothing listens -/
  | refused
  /-- the connection ends without an answer, or with something which is none -/
  | dropped
  /-- an answer with a status and a body, which is whole or cut short -/
  | answered (status : Nat) (body : List UInt8) (whole : Bool)
deriving DecidableEq, Repr

/-- How an interface names the ways in which a reply can be missing. -/
structure TransportFaults where
  /-- nothing listens -/
  refused : RequestFault
  /-- no answer -/
  dropped : RequestFault
  /-- the body is cut short -/
  cut : RequestFault

/-- The span after which a request is given up. -/
def requestTimeout : Duration := .ofSeconds 10

namespace Reply

/-- Whether a status is one of success. -/
def isSuccess (status : Nat) : Bool := 200 ≤ status && status < 300

/-- The body of a reply of success. -/
def body (api : String) (faults : TransportFaults) : Reply → Except Failure (List UInt8)
  | refused => .error (.request api faults.refused)
  | dropped => .error (.request api faults.dropped)
  | answered status bytes whole =>
    if !isSuccess status then .error (.unexpectedStatus api status)
    else if whole then .ok bytes
    else .error (.request api faults.cut)

/-- The value which the body of a reply of success holds. -/
def decode {α : Type} (api : String) (faults : TransportFaults) (decoder : Decoder α) (r : Reply) :
    Except Failure α := do
  let bytes ← r.body api faults
  match decoder.ofBytes bytes with
  | .ok a => .ok a
  | .error cause => .error (.payload api cause)

end Reply

/-- What is counted when a call of an interface ends with a failure. -/
def Failure.accounting (endpoint : Endpoint) : Failure → List Event
  | request .. | unexpectedStatus .. => [.requestError endpoint]
  | payload .. => [.payloadError endpoint]
  | _ => []

end TailnetTargets
