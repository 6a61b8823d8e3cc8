/-
  Spans of time.

  * `Duration`: a number of nanoseconds;
  * `ofSeconds`, `ofMillis` and `seconds`, `subsecond` convert from and to other units;
  * `Duration.limit` is the first span which is too long: 2^64 seconds.
-/

namespace TailnetTargets

/-- A span of time. -/
structure Duration where
  /-- the number of nanoseconds -/
  nanos : Nat
deriving DecidableEq, Repr

namespace Duration

/-- The number of nanoseconds in a second. -/
def nanosPerSecond : Nat := 1000000000

/-- The number of nanoseconds in a millisecond. -/
def nanosPerMilli : Nat := 1000000

/-- No time. -/
def zero : Duration := ⟨0⟩

/-- So many seconds. -/
def ofSeconds (n : Nat) : Duration := ⟨n * nanosPerSecond⟩

/-- So many milliseconds. -/
def ofMillis (n : Nat) : Duration := ⟨n * nanosPerMilli⟩

/-- The whole seconds. -/
def seconds (d : Duration) : Nat := d.nanos / nanosPerSecond

/-- The nanoseconds beyond the whole seconds. -/
def subsecond (d : Duration) : Nat := d.nanos % nanosPerSecond

/-- The first span which is too long. -/
def limit : Duration := ofSeconds (Nat.pow 2 64)

instance : LT Duration := ⟨fun a b => a.nanos < b.nanos⟩

instance : LE Duration := ⟨fun a b => a.nanos ≤ b.nanos⟩

instance (a b : Duration) : Decidable (a < b) := inferInstanceAs (Decidable (a.nanos < b.nanos))

instance (a b : Duration) : Decidable (a ≤ b) := inferInstanceAs (Decidable (a.nanos ≤ b.nanos))

/-- The sum of two spans. -/
def add (a b : Duration) : Duration := ⟨a.nanos + b.nanos⟩

/-- What is left of a span, or nothing. -/
def sub (a b : Duration) : Duration := ⟨a.nanos - b.nanos⟩

end Duration

end TailnetTargets
