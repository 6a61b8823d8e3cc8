/-
  How calls of sources end.

  * `Outcome`: with devices, with a failure, or with a panic;
  * `Outcome.devices` are the devices which may be used, `Outcome.failure?` is the failure;
  * `Outcome.merge` joins the outcomes of several sources: the devices of all of them, in their
    order, and their failures, in the same order.
-/
import TailnetTargets.Failure

namespace TailnetTargets

/-- How a call of a source ends. -/
inductive Outcome where
  /-- with devices -/
  | found (devices : List Device)
  /-- with a failure -/
  | failed (failure : Failure)
  /-- with a panic and its text -/
  | panicked (text : String)

namespace Outcome

/-- How a call ends which has a result. -/
def ofExcept : Except Failure (List Device) → Outcome
  | .ok devices => found devices
  | .error failure => failed failure

/-- The failure with which a call ends.  A panic is a lost task to those who wait for it. -/
def failure? : Outcome → Option Failure
  | found _ => none
  | failed failure => some failure
  | panicked text => some (.lost (some text))

/-- The devices which may be used: those that were found or those that a failure carries. -/
def devices : Outcome → List Device
  | found devices => devices
  | failed failure => failure.devices
  | panicked _ => []

/-- The failures among outcomes. -/
def failures (outcomes : List Outcome) : List Failure := outcomes.filterMap failure?

/-- The outcome of asking several sources together. -/
def merge (outcomes : List Outcome) : Outcome :=
  match failures outcomes with
  | [] => found (outcomes.flatMap devices)
  | failures => failed (.aggregate (outcomes.flatMap devices) failures)

/-- Nothing is lost, repeated or moved when outcomes are joined. -/
theorem devices_merge (outcomes : List Outcome) :
    (merge outcomes).devices = outcomes.flatMap devices := by
  unfold merge
  split <;> rfl

end Outcome

end TailnetTargets
