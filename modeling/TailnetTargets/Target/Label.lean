/-
  The names of the labels which describe a target.

  * `Label.api`, …, `Label.tailnet`: the nine labels which every target has;
  * `Label.ofTag`: the label of a device tag.  The tag `tag:Prod-1234` has the label
    `__meta_tailscale_device_tag_prod_1234`: the marker `tag:` is dropped, the rest is lower-cased,
    colons and hyphens become underscores, and a tag of which nothing is left is called `EMPTY`.
-/
import TailnetTargets.Text.Lowercase

namespace TailnetTargets.Label

open Text

/-- The host of the interface which reported the device. -/
def api : String := "__meta_tailscale_api"

/-- Whether the device may use the tailnet. -/
def authorized : String := "__meta_tailscale_device_authorized"

/-- The version of the client on the device. -/
def clientVersion : String := "__meta_tailscale_device_client_version"

/-- The short name of the device's host. -/
def hostname : String := "__meta_tailscale_device_hostname"

/-- The identifier of the device. -/
def id : String := "__meta_tailscale_device_id"

/-- The full name of the device. -/
def name : String := "__meta_tailscale_device_name"

/-- Whether the device is connected. -/
def online : String := "__meta_tailscale_device_online"

/-- The operating system of the device. -/
def os : String := "__meta_tailscale_device_os"

/-- The tailnet to which the device belongs. -/
def tailnet : String := "__meta_tailscale_tailnet"

/-- What the label of every tag starts with. -/
def tagStem : String := "__meta_tailscale_device_tag_"

/-- The value of the label of a tag. -/
def tagValue : String := "1"

/-- What stands for a tag without a name. -/
def emptyTag : String := "EMPTY"

/-- A tag without its marker. -/
def tagName (tag : List Char) : List Char :=
  match tag with
  | 't' :: 'a' :: 'g' :: ':' :: rest => rest
  | _ => tag

/-- A character which may separate words in a tag becomes an underscore. -/
def joinWords (c : Char) : Char :=
  if c = ':' ∨ c = '-' then '_' else c

/-- The name of a tag as it stands in a label. -/
def normalTagName (tag : List Char) : List Char :=
  match (lowerAfter [] (tagName tag)).map joinWords with
  | [] => emptyTag.toList
  | name => name

/-- The label of a device tag. -/
def ofTag (tag : String) : String :=
  tagStem ++ String.ofList (normalTagName tag.toList)

end TailnetTargets.Label
