/-
  The status which the local node reports about itself and its peers.

  * `Peer`: what is known about one node;
  * `Status`: the addresses of the local node, the node itself, its peers by key, and the name of
    its tailnet.  Members which are missing or `null` stand for nothing;
  * `Status.devices` gives a device for each peer, in the order of the keys.  The node itself is
    none of them.
-/
import TailnetTargets.Address.Parser
import TailnetTargets.Address.Printer
import TailnetTargets.Device.Basic
import TailnetTargets.Json.Decode

namespace TailnetTargets

/-- The name under which the local interface is known. -/
def localHost : String := "localhost"

/-- What is known about a node. -/
structure Peer where
  /-- its identifier -/
  id : String := ""
  /-- its short name -/
  hostName : String := ""
  /-- its name in the tailnet -/
  dnsName : String := ""
  /-- its operating system -/
  os : String := ""
  /-- its addresses -/
  addresses : Option (List Address) := none
  /-- its tags -/
  tags : Option (List String) := none
  /-- whether it is connected -/
  online : Option Bool := none
deriving DecidableEq

/-- What the local node reports. -/
structure Status where
  /-- the addresses of the node itself -/
  addresses : Option (List Address) := none
  /-- the node itself -/
  node : Option Peer := none
  /-- its peers by key -/
  peers : Option (KeyMap Peer) := none
  /-- the name of the tailnet -/
  tailnet : Option String := none
deriving DecidableEq

/-- A list of addresses. -/
def addressesDecoder : Decoder (List Address) :=
  Decoder.list (Decoder.parsed Address.ofText?)

namespace Peer

/-- How a peer is read. -/
def format : Format Peer where
  start := {}
  fields := [
    Decoder.string.field "ID" fun v p => { p with id := v },
    Decoder.string.field "HostName" fun v p => { p with hostName := v },
    Decoder.string.field "DNSName" fun v p => { p with dnsName := v },
    Decoder.string.field "OS" fun v p => { p with os := v },
    addressesDecoder.nullable.field "TailscaleIPs" fun v p => { p with addresses := v },
    (Decoder.list Decoder.string).nullable.field "Tags" fun v p => { p with tags := v },
    Decoder.bool.nullable.field "Online" fun v p => { p with online := v }]

/-- A peer as a device.  The node reports only peers which may use the tailnet, and neither their
    full names nor the versions of their clients. -/
def toDevice (tailnet : String) (p : Peer) : Device where
  addresses := (p.addresses.getD []).map Address.text
  api := localHost
  authorized := true
  hostname := p.hostName
  id := p.id
  online := p.online.getD true
  os := p.os
  tags := TagSet.ofList (p.tags.getD [])
  tailnet := tailnet

end Peer

namespace Status

/-- How the tailnet is read: a record of which only the name counts. -/
def tailnetFormat : Format String where
  start := ""
  fields := [Decoder.string.field "Name" fun v _ => v]

/-- How a status is read. -/
def format : Format Status where
  start := {}
  fields := [
    addressesDecoder.nullable.field "TailscaleIPs" fun v s => { s with addresses := v },
    (Decoder.nullable Peer.format.decode).field "Self" fun v s => { s with node := v },
    (Decoder.keyMap Peer.format.decode).nullable.field "Peer" fun v s => { s with peers := v },
    (Decoder.nullable tailnetFormat.decode).field "CurrentTailnet"
      fun v s => { s with tailnet := v }]

/-- The status which a value describes. -/
def decoder : Decoder Status := format.decode

/-- The peers with their keys, in the order of the keys. -/
def peerList (s : Status) : List (String × Peer) :=
  match s.peers with
  | some peers => peers.entries
  | none => []

/-- The peers as devices, in the order of their keys. -/
def devices (s : Status) : List Device :=
  s.peerList.map fun entry => entry.2.toDevice (s.tailnet.getD "")

end Status

end TailnetTargets
