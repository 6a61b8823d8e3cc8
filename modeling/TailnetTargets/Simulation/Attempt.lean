/-
  Calls in a simulation.

  * `Attempt`: a call which is begun after some time, and what happens to it meanwhile;
  * `Simulation.attempt` makes such calls side by side and waits until all of them are over; it
    gives their outcomes in the order in which they were asked for, with nothing for those that
    were dropped;
  * `Simulation.visit` is a visit of a service.

  What is to happen at which time stands in an agenda.  Whoever waits is woken at whole
  milliseconds.  The number of `proceedFor` bounds the number of waits; every wait ends with an
  entry of the agenda or with the alarm of a task.
-/
import TailnetTargets.Service
import TailnetTargets.Simulation.Basic

namespace TailnetTargets

/-- A call which is begun after some time. -/
structure Attempt where
  /-- how long to wait before the call is begun -/
  delay : Duration := .zero
  /-- whether the call is made in order to serve its devices -/
  serves : Bool := false
  /-- whether the call is canceled before it is begun -/
  isCanceled : Bool := false
  /-- how long after its start the call is canceled -/
  cancelAfter : Option Duration := none
  /-- how long after its start the call is dropped -/
  dropAfter : Option Duration := none

/-- When an attempt is begun: without a wait at once, else when a timer rings. -/
def Attempt.startOf (a : Attempt) (now : Instant) : Instant :=
  if a.delay = .zero then now else now.alarm a.delay

/-- Something that is to happen. -/
inductive Appointment where
  /-- an attempt is begun -/
  | start (number : Nat) (attempt : Attempt)
  /-- a task is canceled -/
  | cancel (task : Nat)
  /-- a task is dropped -/
  | drop (task : Nat)

/-- What is to happen at which time. -/
abbrev Agenda := List (Instant × Appointment)

namespace Agenda

/-- The time of the next entry. -/
def next? (a : Agenda) : Option Instant :=
  a.foldl (fun best entry => World.earlier best (some entry.1)) none

/-- The entries whose time has come. -/
def due (a : Agenda) (now : Instant) : List Appointment :=
  (a.filter fun entry => entry.1 ≤ now).map (·.2)

/-- The entries whose time has not come yet. -/
def later (a : Agenda) (now : Instant) : Agenda := a.filter fun entry => !(entry.1 ≤ now)

end Agenda

/-- Attempts under way. -/
structure Campaign where
  /-- the source which is called -/
  source : Source
  /-- the simulation -/
  simulation : Simulation
  /-- what is still to happen -/
  agenda : Agenda
  /-- the tasks of the attempts which were begun, by the numbers of the attempts -/
  tasks : List (Nat × Nat) := []

namespace Campaign

/-- Begins an attempt. -/
def start (c : Campaign) (number : Nat) (a : Attempt) : Campaign :=
  let task := c.simulation.world.tasks.length
  let s := c.simulation.step (if a.serves then .serve c.source else .call c.source)
  let s := if a.isCanceled then s.step (.cancel task) else s
  let at? (d : Option Duration) (what : Appointment) : Agenda :=
    (d.map fun d => (s.world.clock.alarm d, what)).toList
  { c with
    simulation := s
    agenda := c.agenda ++ at? a.cancelAfter (.cancel task) ++ at? a.dropAfter (.drop task)
    tasks := c.tasks ++ [(number, task)] }

/-- Does what is to be done. -/
def keep (c : Campaign) : Appointment → Campaign
  | .start number attempt => c.start number attempt
  | .cancel task => { c with simulation := c.simulation.step (.cancel task) }
  | .drop task => { c with simulation := c.simulation.step (.drop task) }

/-- Does everything whose time has come, and goes on until only time can help. -/
def work (c : Campaign) : Campaign :=
  let now := c.simulation.world.clock
  let c := (c.agenda.due now).foldl keep { c with agenda := c.agenda.later now }
  { c with simulation := c.simulation.quiesce }

/-- Whether so many attempts are over. -/
def isOver (c : Campaign) (count : Nat) : Bool :=
  c.tasks.length = count && c.tasks.all fun entry => c.simulation.world.isOver entry.2

/-- Waits at most so often, until so many attempts are over. -/
def proceedFor (count : Nat) : Nat → Campaign → Campaign
  | 0, c => c
  | n + 1, c =>
    if c.isOver count then c
    else
      match World.earlier c.agenda.next? c.simulation.world.nextAlarm? with
      | none => c
      | some alarm =>
        let d := c.simulation.world.clock.untilWholeMillis alarm
        proceedFor count n { c with simulation := c.simulation.step (.advance d) }.work

/-- The outcomes of attempts, in their order, with nothing for those that were dropped. -/
def outcomes (c : Campaign) (count : Nat) : List (Option Outcome) :=
  (List.range count).map fun number =>
    (c.tasks.lookup number).bind c.simulation.world.outcome?

end Campaign

namespace Simulation

/-- Makes calls of a source side by side and waits until all of them are over. -/
def attempt (s : Simulation) (source : Source) (attempts : List Attempt) :
    Simulation × List (Option Outcome) :=
  let agenda := attempts.zipIdx.map fun entry =>
    (entry.1.startOf s.world.clock, Appointment.start entry.2 entry.1)
  let count := attempts.length
  let bound := s.world.work + count * (source.work + 3)
  let c := Campaign.proceedFor count bound (Campaign.mk source s agenda []).work
  (c.simulation, c.outcomes count)

/-- What a visitor gets. -/
inductive Reception where
  /-- an answer -/
  | answered (r : Response)
  /-- nothing, because of a panic with this text -/
  | panicked (text : String)
  /-- nothing, because the visitor has left -/
  | dropped

/-- A visit of a service, by a visitor who may leave after some time. -/
def visit (s : Simulation) (service : Service) (v : Visit) (dropAfter : Option Duration) :
    Simulation × Reception :=
  match Route.ofVisit v with
  | .error r => (s, .answered (v.trim r))
  | .ok .metrics => (s, .answered (v.trim (metricsResponse s.world.registry)))
  | .ok .targets =>
    let (s, outcomes) := s.attempt service.source [{ serves := true, dropAfter }]
    match outcomes with
    | [some outcome] =>
      match service.targetsResponse outcome with
      | .ok r => (s, .answered (v.trim r))
      | .error text => (s, .panicked text)
    | _ => (s, .dropped)

end Simulation

end TailnetTargets
