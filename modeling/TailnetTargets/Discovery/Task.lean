/-
  Tasks: calls of sources on their way to an outcome.

  * `Refresh`: a cache which waits for its source, with the devices which its caller found;
  * `Pause`: the wait of a scripted source;
  * `Call`: the call of an interface, which waits for its turn at a token desk or for a reply;
  * `Phase`: what a task is doing, and `Task` what it belongs to and what waits for it;
  * `Task.closes` are the scopes which end with a task;
  * `Task.work` bounds the number of steps which are left to a task;
  * `Task.alarm?` is when a task goes on at the latest.
-/
import TailnetTargets.Discovery.Cache
import TailnetTargets.Discovery.Scope
import TailnetTargets.Discovery.Script
import TailnetTargets.Discovery.Source

namespace TailnetTargets

/-- A cache which waits for its source. -/
structure Refresh where
  /-- the number of the cache -/
  cache : Nat
  /-- how often the source is asked at most -/
  frequency : Duration
  /-- whether the cache is counted -/
  metered : Bool
  /-- the devices which the caller found -/
  previous : Option (List Device)

/-- The wait of a scripted source. -/
structure Pause where
  /-- the number of the script -/
  script : Nat
  /-- when the wait is over -/
  alarm : Instant
  /-- whether the wait goes on when it is canceled -/
  isDeaf : Bool
  /-- how the call ends after the wait -/
  outcome : Outcome

/-- What the call of an interface waits for. -/
inductive Stage where
  /-- its turn at the token desk -/
  | turn
  /-- the reply to a request, which is given up at an instant -/
  | reply (errand : Errand) (alarm : Instant)
deriving DecidableEq, Repr

/-- The call of an interface. -/
structure Call where
  /-- the interface -/
  asked : Interface
  /-- whether the call is counted -/
  metered : Bool
  /-- when the call began, by the clock of the tokens -/
  began : Instant
  /-- what the call waits for -/
  stage : Stage

/-- What a task is doing. -/
inductive Phase where
  /-- it is about to call a source -/
  | ready (source : Source)
  /-- it waits as a script says -/
  | paused (pause : Pause)
  /-- it waits for an interface -/
  | calling (call : Call)
  /-- it waits for so many tasks, from a first one on -/
  | gathering (metered : Bool) (first count : Nat)
  /-- it has ended -/
  | finished (outcome : Outcome)
  /-- nobody wants its outcome any more -/
  | dropped

/-- The call of a source on its way to an outcome. -/
structure Task where
  /-- what the task is canceled with -/
  scope : Scope
  /-- the task which waits for this one, unless it was called from outside -/
  parent : Option Nat := none
  /-- the caches which wait for the task, the inner ones first -/
  refreshes : List Refresh := []
  /-- what the task is doing -/
  phase : Phase

namespace Task

/-- The outcome of a task which has ended. -/
def outcome? (t : Task) : Option Outcome :=
  match t.phase with
  | .finished outcome => some outcome
  | _ => none

/-- Whether a task has ended or was dropped. -/
def isOver (t : Task) : Bool :=
  match t.phase with
  | .finished _ | .dropped => true
  | _ => false

/-- Whether a task belongs to what is served. -/
def isServed (t : Task) : Bool := Scope.shutdown.contains t.scope

/-- The scopes which end with a task, whether it has an outcome or was dropped: that of the tasks
    which were begun for it, and its own if it was called in order to serve devices. -/
def closes (t : Task) (i : Nat) : List Scope :=
  t.scope.within i :: if t.parent.isNone && t.isServed then [t.scope] else []

/-- With a task which was begun for another one ends the scope of those which were begun for it. -/
theorem closes_of_parent {t : Task} {p : Nat} (h : t.parent = some p) (i : Nat) :
    t.closes i = [t.scope.within i] := by
  rw [closes, h]
  rfl

/-- A bound for the number of steps which are left to a task. -/
def work (t : Task) : Nat :=
  match t.phase with
  | .ready source => source.work
  | .paused _ | .gathering .. => 1
  | .calling call =>
    match call.stage with
    | .turn => 3
    | .reply .grant _ => 2
    | .reply .devices _ => 1
  | .finished _ | .dropped => 0

/-- When a task goes on at the latest, if time alone can make it go on. -/
def alarm? (t : Task) : Option Instant :=
  match t.phase with
  | .paused pause => some pause.alarm
  | .calling { stage := .reply _ alarm, .. } => some alarm
  | _ => none

end Task

end TailnetTargets
