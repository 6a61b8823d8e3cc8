/-
  In which order tasks go on.

  * `World.round` lets every task go on once, in the order in which they were begun;
  * `World.settleAll` lets tasks go on for as long as one of them can;
  * `World.nextAlarm?` is when the next task goes on, and `World.ring` lets those go on whose alarm
    rings, in the order of their alarms.

  The first number of `settleFor` bounds the number of rounds; `World.work` is large enough, because
  every round in which a task goes on takes away from it.
-/
import TailnetTargets.Discovery.Step

namespace TailnetTargets

namespace World

/-- Lets every task which has not ended go on once. -/
def round (w : World) : World :=
  (List.range w.tasks.length).foldl (fun w i => if w.isOver i then w else w.run i) w

/-- Lets tasks go on for at most so many rounds, or until none of them can. -/
def settleFor : Nat → World → World
  | 0, w => w
  | n + 1, w => if w.round.work < w.work then settleFor n w.round else w.round

/-- Lets every task go on for as long as one of them can. -/
def settleAll (w : World) : World := settleFor w.work w

/-- The tasks whose alarm rings, in the order of their alarms. -/
def ringing (w : World) : List Nat :=
  let alarms := w.tasks.zipIdx.filterMap fun entry =>
    (entry.1.alarm?.filter (· ≤ w.clock)).map fun alarm => (alarm, entry.2)
  (alarms.mergeSort fun a b => a.1 ≤ b.1).map (·.2)

/-- Lets the tasks go on whose alarm rings. -/
def ring (w : World) : World := w.ringing.foldl run w

/-- The earlier of two alarms. -/
def earlier (a b : Option Instant) : Option Instant :=
  match a, b with
  | some s, some t => some (if t < s then t else s)
  | some s, none => some s
  | none, b => b

/-- When the next task goes on. -/
def nextAlarm? (w : World) : Option Instant :=
  w.tasks.foldl (fun best t => earlier best t.alarm?) none

end World

end TailnetTargets
