/-
  Groups of targets as JSON, in the form in which collectors of measurements expect them.

  * `TargetGroup.toJson`: the targets, and the labels unless there are none;
  * `TargetGroup.format` wants the targets; the labels may be missing;
  * `groupsText` is the text of a list of groups.
-/
import TailnetTargets.Json.Decode
import TailnetTargets.Json.Printer
import TailnetTargets.Target.Basic

namespace TailnetTargets

namespace TargetGroup

/-- How a group is read. -/
def format : Format TargetGroup where
  start := ⟨[], KeyMap.empty⟩
  fields := [
    { (Decoder.list Decoder.string).field "targets" fun v g => { g with targets := v } with
      required := true },
    (Decoder.keyMap Decoder.string).field "labels" fun v g => { g with labels := v }]

/-- The group which a value describes. -/
def decoder : Decoder TargetGroup := format.decode

/-- The labels as a member, unless there are none. -/
def labelMember (g : TargetGroup) : List (String × Json) :=
  if g.labels.isEmpty then []
  else [("labels", .record (g.labels.entries.map fun e => (e.1, .string e.2)))]

/-- A group as a JSON value. -/
def toJson (g : TargetGroup) : Json :=
  .record (("targets", .list (g.targets.map .string)) :: labelMember g)

end TargetGroup

/-- The text of a list of groups. -/
def groupsText (groups : List TargetGroup) : String :=
  (Json.list (groups.map TargetGroup.toJson)).render

end TailnetTargets
