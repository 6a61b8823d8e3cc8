/-
  Everything that changes while devices are discovered.

  * `setAt` changes the value of a number;
  * `Sent`: a request on its way;
  * `World`: the clocks, the counters, the state of caches, scripts and token desks by their
    numbers, what was canceled, all tasks in the order in which they were begun, all requests in
    the order in which they were sent, and what was told;
  * `count`, `tell`, `setPhase`, `pushRefresh`, `setDesk` and `cancel` change one part of it;
  * `settle` tells caches how their source ended, `close` cancels what ends with a task, and
    `finish` ends a task;
  * `World.isOver` and `World.outcome?` say how a task ended;
  * `World.work` bounds the number of steps which are left.

  There are two clocks: caches and timers go by `clock`, access tokens and latencies by
  `tokenClock`.
-/
import TailnetTargets.Discovery.AccessToken
import TailnetTargets.Discovery.Task

namespace TailnetTargets

/-- Changes the value of a number. -/
def setAt {α : Type} (values : Nat → α) (key : Nat) (value : α) : Nat → α :=
  fun n => if n = key then value else values n

/-- The changed value. -/
@[simp]
theorem setAt_self {α : Type} (values : Nat → α) (key : Nat) (value : α) :
    setAt values key value key = value := if_pos rfl

/-- The other values. -/
theorem setAt_of_ne {α : Type} (values : Nat → α) {key n : Nat} (value : α) (h : n ≠ key) :
    setAt values key value n = values n := if_neg h

/-- A request on its way. -/
structure Sent where
  /-- the task which waits for the reply -/
  task : Nat
  /-- the interface to which the request goes -/
  asked : Interface
  /-- the request -/
  request : Request

/-- Everything that changes while devices are discovered. -/
structure World where
  /-- the time of caches and timers -/
  clock : Instant := .start
  /-- the time of access tokens and latencies -/
  tokenClock : Instant := .start
  /-- what was counted -/
  registry : Registry := {}
  /-- the caches by their numbers -/
  caches : Nat → Cache := fun _ => {}
  /-- the scripts by their numbers -/
  scripts : Nat → Script := fun _ => {}
  /-- the token desks by their numbers -/
  desks : Nat → TokenDesk := fun _ => {}
  /-- the scopes which were canceled -/
  canceled : List Scope := []
  /-- all tasks -/
  tasks : List Task := []
  /-- all requests -/
  sent : List Sent := []
  /-- what was told, in the order in which it was told -/
  journal : List LogLine := []

namespace World

instance : Inhabited World := ⟨{}⟩

/-! ## Parts of the world -/

/-- Takes note of events, if they are counted. -/
def count (w : World) (metered : Bool) (events : List Event) : World :=
  if metered then { w with registry := events.foldl Registry.record w.registry } else w

/-- Tells something. -/
def tell (w : World) (line : LogLine) : World := { w with journal := w.journal ++ [line] }

/-- Lets a task do something else. -/
def setPhase (w : World) (i : Nat) (phase : Phase) : World :=
  { w with tasks := w.tasks.modify i fun t => { t with phase } }

/-- Lets a cache wait for a task. -/
def pushRefresh (w : World) (i : Nat) (r : Refresh) : World :=
  { w with tasks := w.tasks.modify i fun t => { t with refreshes := r :: t.refreshes } }

/-- Changes a token desk. -/
def setDesk (w : World) (id : Nat) (desk : TokenDesk) : World :=
  { w with desks := setAt w.desks id desk }

/-- Cancels a scope. -/
def cancel (w : World) (s : Scope) : World := { w with canceled := s :: w.canceled }

/-- Whether a scope is canceled. -/
def isCanceled (w : World) (s : Scope) : Bool := s.isCanceled w.canceled

/-- Whether a task has ended or was dropped. -/
def isOver (w : World) (i : Nat) : Bool := w.tasks[i]?.all (·.isOver)

/-- The outcome of a task which has ended. -/
def outcome? (w : World) (i : Nat) : Option Outcome := w.tasks[i]?.bind Task.outcome?

/-- The outcomes of so many tasks from a first one on, if all of them have ended. -/
def outcomes? (w : World) (first count : Nat) : Option (List Outcome) :=
  ((w.tasks.drop first).take count).mapM Task.outcome?

/-- A bound for the number of steps which are left. -/
def work (w : World) : Nat := w.tasks.foldl (fun n t => n + t.work) 0

/-- The world without its past: when every task is over, nothing depends on it any more. -/
def forget (w : World) : World :=
  if w.tasks.all Task.isOver then { w with canceled := [], tasks := [], sent := [], journal := [] }
  else w

/-! ## The end of a task -/

/-- Tells a cache how its source ended: devices are kept, and a failure is covered by the devices
    which the caller found. -/
def settleOne (w : World) (r : Refresh) : Outcome → World × Outcome
  | .found devices =>
    ({ w with caches := setAt w.caches r.cache (.commit w.clock r.frequency devices) },
      .found devices)
  | .failed failure =>
    (w.count (r.metered && r.previous.isSome) [.cacheStale], .failed (failure.covered r.previous))
  | .panicked text => (w, .panicked text)

/-- Tells caches how their source ended, the inner ones first. -/
def settle (w : World) : List Refresh → Outcome → World × Outcome
  | [], outcome => (w, outcome)
  | r :: rest, outcome => (w.settleOne r outcome).1.settle rest (w.settleOne r outcome).2

/-- The scopes which end with a task of the world. -/
def closesOf (w : World) (i : Nat) : List Scope := (w.tasks[i]?.map (·.closes i)).getD []

/-- Cancels the scopes which end with a task. -/
def close (w : World) (i : Nat) : World := { w with canceled := w.closesOf i ++ w.canceled }

/-- Ends a task. -/
def finish (w : World) (i : Nat) (outcome : Outcome) : World :=
  let (w, outcome) := w.settle ((w.tasks[i]?.map (·.refreshes)).getD []) outcome
  (w.setPhase i (.finished outcome)).close i

end World

end TailnetTargets
