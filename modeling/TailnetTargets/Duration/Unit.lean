/-
  Units of time.

  * `TimeUnit`: the units from the nanosecond to the year.  A month is the twelfth part of a year,
    30.44 days, and a year has 365.25 days;
  * `TimeUnit.ofName?` knows the names of the units, and `nanos` their lengths.
-/
import TailnetTargets.Duration.Basic

namespace TailnetTargets

/-- A unit of time. -/
inductive TimeUnit where
  /-- a nanosecond -/
  | nanosecond
  /-- a microsecond -/
  | microsecond
  /-- a millisecond -/
  | millisecond
  /-- a second -/
  | second
  /-- a minute -/
  | minute
  /-- an hour -/
  | hour
  /-- a day -/
  | day
  /-- a week -/
  | week
  /-- a month of 30.44 days -/
  | month
  /-- a year of 365.25 days -/
  | year
deriving DecidableEq, Repr

namespace TimeUnit

/-- The number of seconds in a unit of at least a second, and zero for a shorter one. -/
def seconds : TimeUnit → Nat
  | nanosecond | microsecond | millisecond => 0
  | second => 1
  | minute => 60
  | hour => 3600
  | day => 86400
  | week => 604800
  | month => 2630016
  | year => 31557600

/-- The number of nanoseconds in a unit. -/
def nanos : TimeUnit → Nat
  | nanosecond => 1
  | microsecond => 1000
  | millisecond => 1000000
  | unit => unit.seconds * Duration.nanosPerSecond

/-- Whether the unit is shorter than a second. -/
def isShort (unit : TimeUnit) : Bool := unit.seconds = 0

/-- The unit of a name.  A lone `m` is a minute and a lone `M` is a month. -/
def ofName? (name : String) : Option TimeUnit :=
  if ["nanos", "nsec", "ns"].contains name then some nanosecond
  else if ["usec", "us", "µs"].contains name then some microsecond
  else if ["millis", "msec", "ms"].contains name then some millisecond
  else if ["seconds", "second", "secs", "sec", "s"].contains name then some second
  else if ["minutes", "minute", "min", "mins", "m"].contains name then some minute
  else if ["hours", "hour", "hrs", "hr", "h"].contains name then some hour
  else if ["days", "day", "d"].contains name then some day
  else if ["weeks", "week", "wk", "wks", "w"].contains name then some week
  else if ["months", "month", "M"].contains name then some month
  else if ["years", "year", "yr", "yrs", "y"].contains name then some year
  else none

end TimeUnit

end TailnetTargets
