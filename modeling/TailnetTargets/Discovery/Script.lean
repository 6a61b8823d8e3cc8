/-
  Scripts: sources which do what they were told beforehand.

  * `Cue`: how one call of such a source goes: how long it waits, whether it minds being canceled
    meanwhile, and how it ends;
  * `Script`: the cues, how often the source was called, and how often a call was canceled;
  * `Script.next` is the cue of the next call.  The last cue is used again and again; a source
    without cues finds no devices.
-/
import TailnetTargets.Discovery.Outcome
import TailnetTargets.Duration.Basic

namespace TailnetTargets

/-- How a call of a scripted source goes. -/
structure Cue where
  /-- how long the call waits, if it waits at all -/
  delay : Option Duration := none
  /-- whether the call waits even when it is canceled -/
  isDeaf : Bool := false
  /-- how the call ends -/
  outcome : Outcome := .found []

instance : Inhabited Cue := ⟨{}⟩

/-- A scripted source. -/
structure Script where
  /-- how the calls go -/
  cues : List Cue := []
  /-- the number of calls -/
  calls : Nat := 0
  /-- the number of calls which were canceled -/
  cancellations : Nat := 0

namespace Script

instance : Inhabited Script := ⟨{}⟩

/-- The cue of the next call. -/
def next (s : Script) : Cue := (s.cues[s.calls]? <|> s.cues.getLast?).getD {}

end Script

end TailnetTargets
