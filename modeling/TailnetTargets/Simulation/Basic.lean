/-
  Simulations: worlds which run on a virtual clock, with a network that was told what to do.

  * `Simulation`: the world, the network, and how many requests reached it;
  * `Simulation.quiesce` lets tasks go on and delivers what the network sends back, until nothing is
    left to be done without a wait.  Requests take no time;
  * `Simulation.wait` lets time pass; alarms ring in their order.

  The first number of `quiesceFor` bounds the number of deliveries; every task sends no more
  requests than it has steps left.
-/
import TailnetTargets.Discovery.Schedule
import TailnetTargets.Simulation.Network

namespace TailnetTargets

/-- A world on a virtual clock with a network. -/
structure Simulation where
  /-- the world -/
  world : World := {}
  /-- the network -/
  network : Network := {}
  /-- the number of requests which the network has dealt with -/
  delivered : Nat := 0
  /-- the requests to which something listened, the last one first -/
  heard : List Request := []

namespace Simulation

instance : Inhabited Simulation := ⟨{}⟩

/-- Hands a request to the network, and what comes back to the task. -/
def deliver (s : Simulation) (sent : Sent) : Simulation :=
  let (reply?, network) := s.network.receive sent
  { world := match reply? with
      | some reply => s.world.step (.reply sent.task reply)
      | none => s.world
    network
    delivered := s.delivered + 1
    heard := if s.network.reaches sent then sent.request :: s.heard else s.heard }

/-- Settles the world and delivers requests, at most so many. -/
def quiesceFor : Nat → Simulation → Simulation
  | 0, s => s
  | n + 1, s =>
    let s := { s with world := s.world.settleAll }
    match s.world.sent[s.delivered]? with
    | some sent => quiesceFor n (s.deliver sent)
    | none => s

/-- Goes on until nothing is left to be done without a wait. -/
def quiesce (s : Simulation) : Simulation :=
  quiesceFor (s.world.work + (s.world.sent.length - s.delivered) + 1) s

/-- The world after something happened. -/
def step (s : Simulation) (label : Label) : Simulation := { s with world := s.world.step label }

/-- Lets time pass. -/
def wait (s : Simulation) (d : Duration) : Simulation :=
  let s := s.step (.advance d)
  { s with world := s.world.ring }.quiesce

/-- Cancels everything that is served. -/
def shutDown (s : Simulation) : Simulation := (s.step .shutDown).quiesce

end Simulation

end TailnetTargets
