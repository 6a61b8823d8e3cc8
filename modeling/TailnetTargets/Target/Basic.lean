/-
  Targets: where a collector of measurements finds the devices.

  * `TargetGroup`: addresses which share one set of labels;
  * `TargetGroup.ofDevice`: the group of one device: its addresses, nine labels for its fields, and
    one label for each of its tags.
-/
import TailnetTargets.Device.Basic
import TailnetTargets.KeyMap
import TailnetTargets.Target.Label

namespace TailnetTargets

/-- Addresses which share one set of labels. -/
structure TargetGroup where
  /-- the addresses -/
  targets : List String
  /-- the labels with their values -/
  labels : KeyMap String
deriving DecidableEq

/-- The text of a truth value. -/
def boolText (b : Bool) : String := if b then "true" else "false"

namespace TargetGroup

/-- The labels which describe the fields of a device. -/
def fixedLabels (d : Device) : List (String × String) :=
  [(Label.api, d.api),
   (Label.authorized, boolText d.authorized),
   (Label.clientVersion, d.clientVersion),
   (Label.hostname, d.hostname),
   (Label.id, d.id),
   (Label.name, d.name),
   (Label.online, boolText d.online),
   (Label.os, d.os),
   (Label.tailnet, d.tailnet)]

/-- The labels of the tags of a device. -/
def tagLabels (d : Device) : List (String × String) :=
  d.tags.toList.map fun tag => (Label.ofTag tag, Label.tagValue)

/-- The group of one device. -/
def ofDevice (d : Device) : TargetGroup :=
  { targets := d.addresses
    labels := KeyMap.ofList (fixedLabels d ++ tagLabels d) }

end TargetGroup

end TailnetTargets
