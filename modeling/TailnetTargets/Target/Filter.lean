/-
  Filters: what is taken out of the targets before they are served.

  * `Filter.emptyLabels` drops the labels with an empty key or an empty value;
  * `Filter.ipv6` keeps IPv4 targets only: an IPv4-mapped address becomes the IPv4 address which it
    stands for, another IPv6 address is dropped, and a target which is no address stays as it is;
  * `targetGroups` are the groups of devices with filters applied one after the other.
-/
import TailnetTargets.Address.Parser
import TailnetTargets.Address.Printer
import TailnetTargets.Target.Basic

namespace TailnetTargets

/-- What is taken out of a group of targets. -/
inductive Filter where
  /-- labels with an empty key or an empty value -/
  | emptyLabels
  /-- addresses which are not reached over IPv4 -/
  | ipv6
deriving DecidableEq, Repr

/-- The form in which a target is reached over IPv4, if there is one. -/
def overIPv4? (target : String) : Option String :=
  match Address.ofText? target with
  | none => some target
  | some (.v4 ip) => some ip.text
  | some (.v6 ip) => ip.mapped?.map (·.text)

namespace Filter

/-- The group after the filter. -/
def apply : Filter → TargetGroup → TargetGroup
  | emptyLabels, group =>
    { group with labels := group.labels.filter fun key value => !key.isEmpty && !value.isEmpty }
  | ipv6, group => { group with targets := group.targets.filterMap overIPv4? }

/-- The group after filters, the first of them first. -/
def applyAll (filters : List Filter) (group : TargetGroup) : TargetGroup :=
  filters.foldl (fun group filter => filter.apply group) group

end Filter

/-- The groups of devices, one for each and in their order, after filters. -/
def targetGroups (devices : List Device) (filters : List Filter) : List TargetGroup :=
  devices.map fun device => Filter.applyAll filters (TargetGroup.ofDevice device)

end TailnetTargets
