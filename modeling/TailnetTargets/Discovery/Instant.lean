/-
  Points in time.

  * `Instant`: a number of nanoseconds since the clock was started;
  * `Instant.after?` is the instant a span later, if the clock can show it;
  * `Instant.advance` is that instant without regard for the limit;
  * `Instant.alarm` is when a timer rings which is set for a span: timers ring at whole
    milliseconds only;
  * `Instant.untilWholeMillis` is how long to wait, in whole milliseconds, for a timer to ring.
-/
import TailnetTargets.Duration.Basic

namespace TailnetTargets

/-- A point in time. -/
structure Instant where
  /-- the nanoseconds since the clock was started -/
  nanos : Nat
deriving DecidableEq, Repr

namespace Instant

/-- When the clock is started. -/
def start : Instant := ⟨0⟩

/-- The first instant which a clock cannot show: 2^63 seconds after its start. -/
def horizon : Instant := ⟨Nat.pow 2 63 * Duration.nanosPerSecond⟩

instance : Inhabited Instant := ⟨start⟩

instance : LT Instant := ⟨fun a b => a.nanos < b.nanos⟩

instance : LE Instant := ⟨fun a b => a.nanos ≤ b.nanos⟩

instance (a b : Instant) : Decidable (a < b) := inferInstanceAs (Decidable (a.nanos < b.nanos))

instance (a b : Instant) : Decidable (a ≤ b) := inferInstanceAs (Decidable (a.nanos ≤ b.nanos))

/-- The instant a span later. -/
def advance (t : Instant) (d : Duration) : Instant := ⟨t.nanos + d.nanos⟩

/-- The instant a span later, if the clock can show it. -/
def after? (t : Instant) (d : Duration) : Option Instant :=
  if t.advance d < horizon then some (t.advance d) else none

/-- The span since an earlier instant. -/
def since (t earlier : Instant) : Duration := ⟨t.nanos - earlier.nanos⟩

/-- The whole milliseconds since the start of the clock. -/
def millis (t : Instant) : Nat := t.nanos / Duration.nanosPerMilli

/-- The first instant of a whole millisecond which is not before an instant. -/
def roundUp (t : Instant) : Instant :=
  ⟨(t.nanos + Duration.nanosPerMilli - 1) / Duration.nanosPerMilli * Duration.nanosPerMilli⟩

/-- When a timer rings which is set for a span. -/
def alarm (t : Instant) (d : Duration) : Instant := (t.advance d).roundUp

/-- How long to wait for an alarm, in whole milliseconds. -/
def untilWholeMillis (t alarm : Instant) : Duration := .ofMillis (alarm.millis - t.millis)

/-- A timer never rings too early. -/
theorem advance_le_alarm (t : Instant) (d : Duration) : t.advance d ≤ t.alarm d := by
  change t.nanos + d.nanos
    ≤ (t.nanos + d.nanos + Duration.nanosPerMilli - 1) / Duration.nanosPerMilli
      * Duration.nanosPerMilli
  unfold Duration.nanosPerMilli
  omega

end Instant

end TailnetTargets
