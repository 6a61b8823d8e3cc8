/-
  Devices as JSON.

  * `Device.toJson`: the members in the order of the fields; a client version which was not
    reported is left out;
  * `Device.format` reads any subset of the fields, where `null` and a missing member both stand for
    the default, and where `connectedToControl` is a second name of `online`;
  * `Device.decoder` is the decoder of that format.
-/
import TailnetTargets.Device.Basic
import TailnetTargets.Json.Decode
import TailnetTargets.Json.Printer

namespace TailnetTargets.Device

/-- The tags which a list of texts names. -/
def tagsDecoder : Decoder TagSet :=
  fun value => (Decoder.list Decoder.string value).map TagSet.ofList

/-- How a device is read. -/
def format : Format Device where
  start := {}
  fields := [
    ((Decoder.list Decoder.string).orElse []).field "addresses"
      fun v d => { d with addresses := v },
    (Decoder.string.orElse "").field "api" fun v d => { d with api := v },
    (Decoder.bool.orElse false).field "authorized" fun v d => { d with authorized := v },
    (Decoder.string.orElse "").field "clientVersion" fun v d => { d with clientVersion := v },
    (Decoder.string.orElse "").field "hostname" fun v d => { d with hostname := v },
    (Decoder.string.orElse "").field "id" fun v d => { d with id := v },
    (Decoder.string.orElse "").field "name" fun v d => { d with name := v },
    { (Decoder.bool.orElse false).field "online" fun v d => { d with online := v } with
      otherName := some "connectedToControl" },
    (Decoder.string.orElse "").field "os" fun v d => { d with os := v },
    (tagsDecoder.orElse ∅).field "tags" fun v d => { d with tags := v },
    (Decoder.string.orElse "").field "tailnet" fun v d => { d with tailnet := v }]

/-- The device which a value describes. -/
def decoder : Decoder Device := format.decode

/-- The client version as a member, unless it is empty. -/
def clientVersionMember (d : Device) : List (String × Json) :=
  if d.clientVersion = "" then [] else [("clientVersion", .string d.clientVersion)]

/-- The members of a device in order. -/
def members (d : Device) : List (String × Json) :=
  [("addresses", .list (d.addresses.map .string)),
   ("api", .string d.api),
   ("authorized", .bool d.authorized)]
  ++ clientVersionMember d
  ++ [("hostname", .string d.hostname),
   ("id", .string d.id),
   ("name", .string d.name),
   ("online", .bool d.online),
   ("os", .string d.os),
   ("tags", .list (d.tags.toList.map .string)),
   ("tailnet", .string d.tailnet)]

/-- A device as a JSON value. -/
def toJson (d : Device) : Json := .record d.members

end TailnetTargets.Device
