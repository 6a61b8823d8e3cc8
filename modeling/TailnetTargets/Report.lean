/-
  What a run of a program leaves behind.

  * `Report`: the reason why the command line was not followed, or what was told and the complaint
    with which the run ended, if there was one;
  * `Report.exitCode` is the number with which the program ends;
  * `logFilter` is the filter which the environment asks for, in the variable `RUST_LOG`, with a
    filter to fall back on.
-/
import TailnetTargets.Log
import TailnetTargets.Settings.CommandLine

namespace TailnetTargets

/-- What a run of a program leaves behind. -/
inductive Report where
  /-- the command line was not followed -/
  | refused (cause : UsageError)
  /-- the program ran and told something; it ended with a complaint if it failed -/
  | ended (lines : List LogLine) (complaint : Option String)
deriving DecidableEq, Repr

namespace Report

/-- The number with which the program ends. -/
def exitCode : Report → Nat
  | refused .help | refused .version => 0
  | refused _ => 2
  | ended _ none => 0
  | ended _ (some _) => 1

/-- The report with only those lines which are wanted. -/
def select (f : LogFilter) : Report → Report
  | refused cause => refused cause
  | ended lines complaint => ended (f.select lines) complaint

end Report

/-- The variable which asks for lines. -/
def logVariable : String := "RUST_LOG"

/-- The filter which the environment asks for. -/
def logFilter (vars : List (String × String)) (fallback : LogFilter) : LogFilter :=
  ((vars.lookup logVariable).bind LogFilter.ofText?).getD fallback

end TailnetTargets
