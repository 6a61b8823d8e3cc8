/-
  Devices: the members of a tailnet, as every source reports them.

  * `Device`: where a device can be reached, what it is called and what is known about it; every
    field has a default, which stands for what was not reported.
-/
import TailnetTargets.Device.TagSet

namespace TailnetTargets

/-- A member of a tailnet. -/
structure Device where
  /-- the addresses, in the order in which they were reported -/
  addresses : List String := []
  /-- the host of the interface which reported the device -/
  api : String := ""
  /-- whether the device may use the tailnet -/
  authorized : Bool := false
  /-- the version of the client on the device, empty when it was not reported -/
  clientVersion : String := ""
  /-- the short name of the device's host -/
  hostname : String := ""
  /-- an identifier which is unique within its source -/
  id : String := ""
  /-- the full name of the device -/
  name : String := ""
  /-- whether the device is connected -/
  online : Bool := false
  /-- the operating system -/
  os : String := ""
  /-- the tags of the access rules -/
  tags : TagSet := ∅
  /-- the tailnet to which the device belongs -/
  tailnet : String := ""
deriving DecidableEq

instance : Inhabited Device := ⟨{}⟩

end TailnetTargets
