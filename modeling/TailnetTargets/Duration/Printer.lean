/-
  The text of a span of time: the parts which are not zero, from years to nanoseconds, such as
  `1year 1month 4days 7h 26m 24s`.

  * `parts` takes a span apart;
  * `Duration.text` joins the parts with blanks; no time at all is `0s`.
-/
import TailnetTargets.Duration.Unit

namespace TailnetTargets.Duration

/-- A part whose unit is a word. -/
def wordPart (n : Nat) (word : String) : List String :=
  if n = 0 then []
  else if n = 1 then [s!"{n}{word}"]
  else [s!"{n}{word}s"]

/-- A part whose unit is an abbreviation. -/
def shortPart (n : Nat) (unit : String) : List String := if n = 0 then [] else [s!"{n}{unit}"]

/-- The parts of a span. -/
def parts (d : Duration) : List String :=
  let inYear := d.seconds % TimeUnit.year.seconds
  let inMonth := inYear % TimeUnit.month.seconds
  let inDay := inMonth % TimeUnit.day.seconds
  wordPart (d.seconds / TimeUnit.year.seconds) "year"
    ++ wordPart (inYear / TimeUnit.month.seconds) "month"
    ++ wordPart (inMonth / TimeUnit.day.seconds) "day"
    ++ shortPart (inDay / 3600) "h"
    ++ shortPart (inDay % 3600 / 60) "m"
    ++ shortPart (inDay % 60) "s"
    ++ shortPart (d.subsecond / 1000000) "ms"
    ++ shortPart (d.subsecond / 1000 % 1000) "us"
    ++ shortPart (d.subsecond % 1000) "ns"

/-- The text of a span. -/
def text (d : Duration) : String :=
  match d.parts with
  | [] => "0s"
  | parts => " ".intercalate parts

end TailnetTargets.Duration
