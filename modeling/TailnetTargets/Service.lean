/-
  What visitors are served.

  * `Response`: what is answered to a visitor;
  * `Route`: what there is to be seen, and `Route.ofVisit` what a visitor asks for;
  * `Service`: the source whose targets are served, and the filters they go through; empty labels
    are always filtered out first;
  * `Service.targetsResponse` is the answer to a visitor who asks for targets, by the outcome of the
    call of the source.  The devices of a failure are served if earlier results cover everything
    that went wrong;
  * `metricsResponse` is the answer to a visitor who asks for the counters.
-/
import TailnetTargets.Discovery.Outcome
import TailnetTargets.Discovery.Source
import TailnetTargets.Metrics.Exposition
import TailnetTargets.Target.Filter
import TailnetTargets.Target.Json

namespace TailnetTargets

/-- What is answered to a visitor. -/
structure Response where
  /-- how the visit went -/
  status : Nat
  /-- the form of the body -/
  contentType : Option String
  /-- the body -/
  body : String
deriving DecidableEq, Repr

namespace Response

/-- The answer which consists of a status alone. -/
def bare (status : Nat) : Response := ⟨status, none, ""⟩

/-- There is nothing to be seen. -/
def notFound : Response := bare 404

/-- What is to be seen cannot be had in this way. -/
def notAllowed : Response := bare 405

/-- The answer without its body. -/
def head (r : Response) : Response := { r with body := "" }

end Response

/-- What there is to be seen. -/
inductive Route where
  /-- the targets -/
  | targets
  /-- the counters -/
  | metrics
deriving DecidableEq, Repr

/-- A visit: how something is asked for, and where. -/
structure Visit where
  /-- how it is asked for -/
  method : String := "GET"
  /-- where it is found -/
  path : String
deriving DecidableEq, Repr

namespace Visit

/-- Whether only the head of the answer is wanted. -/
def isHead (v : Visit) : Bool := v.method = "HEAD"

/-- Where something is found, without the question that follows. -/
def place (v : Visit) : String :=
  String.ofList (v.path.toList.takeWhile fun c => c ≠ '?' && c ≠ '#')

/-- The answer as the visitor gets it. -/
def trim (v : Visit) (r : Response) : Response := if v.isHead then r.head else r

end Visit

namespace Route

/-- What is found at a place. -/
def ofPlace? : String → Option Route
  | "/" => some targets
  | "/metrics" => some metrics
  | _ => none

/-- What a visitor asks for, or the answer if there is no such thing. -/
def ofVisit (v : Visit) : Except Response Route :=
  match ofPlace? v.place with
  | none => .error .notFound
  | some route => if v.method = "GET" || v.isHead then .ok route else .error .notAllowed

end Route

/-- A source whose targets are served. -/
structure Service where
  /-- the source -/
  source : Source
  /-- the filters which targets go through -/
  filters : List Filter

namespace Service

/-- The service of a source, with filters of its own. -/
def ofSource (source : Source) (filters : List Filter) : Service :=
  ⟨source, .emptyLabels :: filters⟩

/-- The answer with the targets of devices. -/
def devicesResponse (s : Service) (devices : List Device) : Response where
  status := 200
  contentType := some "application/json; charset=utf-8"
  body := groupsText (targetGroups devices s.filters)

/-- The answer which tells of a failure. -/
def failureResponse (failure : Failure) : Response where
  status := 500
  contentType := some "text/plain; charset=utf-8"
  body := "Failed to discover Tailscale devices: " ++ failure.message

/-- The answer to a visitor who asks for targets, or the text of a panic, after which there is
    none. -/
def targetsResponse (s : Service) : Outcome → Except String Response
  | .found devices => .ok (s.devicesResponse devices)
  | .failed failure =>
    .ok (if failure.isStale then s.devicesResponse failure.devices else failureResponse failure)
  | .panicked text => .error text

/-- What is told about the outcome of a call. -/
def lines : Outcome → List LogLine
  | .failed failure =>
    if failure.isStale then
      [⟨.warn, "tailscalesd::api::routes",
        "Serving potentially stale results: " ++ failure.message⟩]
    else
      [⟨.error, "tailscalesd::api::routes",
        "Failed to discover Tailscale devices: " ++ failure.message⟩]
  | _ => []

end Service

/-- The answer to a visitor who asks for the counters. -/
def metricsResponse (r : Registry) : Response where
  status := 200
  contentType := some "text/plain; version=0.0.4; charset=utf-8"
  body := r.text

end TailnetTargets
