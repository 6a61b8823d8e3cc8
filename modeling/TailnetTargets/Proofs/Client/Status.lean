/-
  What the devices of a status tell about the document which it was read from.

  * `Json.textOf?`: the text which the values of a field hold; `Json.Spells`: a text which writes an
    address;
  * `Peer.Describes`: the device which the value of a peer describes;
  * `Status.Describes`: the devices which a document describes: one for each key of a peer, in the
    order of the bytes of the keys;
  * `Status.describes_devices`: **the devices of a status are those which its document describes**;
  * `Status.devices_congr`: what else the document tells, of the node itself, does not count;
  * `Status.spells_of_decoder`: **all addresses of a document which is read are some**.
-/
import TailnetTargets.Client.LocalApi
import TailnetTargets.Proofs.Address.Grammar
import TailnetTargets.Proofs.Device.Rewording
import TailnetTargets.Proofs.Json.Fields
import TailnetTargets.Proofs.Target.Labels
import TailnetTargets.Proofs.Text.ByteOrder

namespace TailnetTargets

open Text

/-! ## Values -/

namespace Json

/-- The text which the values of a field hold: it is empty, if there are none. -/
def textOf? : List Json → Option String
  | [] => some ""
  | [text content] => content
  | _ => none

/-- A text which writes an address. -/
inductive Spells : Json → Address → Prop
  | string {s : String} {a : Address} (h : a.IsSpelling s.toList) : Spells (.string s) a

end Json

namespace Decoder

theorem Gives.textOf?_eq {values : List Json} {s : String} (h : string.Gives "" values s) :
    Json.textOf? values = some s := by
  cases h with
  | absent => rfl
  | single hs =>
    rw [string_eq_ok.1 hs]
    rfl

theorem items_eq_map_string {items : List Json} {texts : List String}
    (h : List.Forall₂ (fun v s => string v = .ok s) items texts) : items = texts.map .string := by
  simp only [string_eq_ok] at h
  rwa [← List.forall₂_eq_eq_eq, List.forall₂_map_right_iff]

theorem parsed_eq_ok {value : Json} {a : Address} :
    parsed Address.ofText? value = .ok a ↔ value.Spells a := by
  constructor
  · intro h
    obtain ⟨s, hs, h⟩ := Except.bind_eq_ok h
    split at h
    · next b hb =>
      cases h
      rw [string_eq_ok.1 hs]
      exact .string (Address.ofText?_eq_some.1 hb)
    · cases h
  · rintro ⟨h⟩
    simp [parsed, string_eq_ok.2 rfl, Address.ofText?_eq_some.2 h, bind, Except.bind]

theorem exists_spells {values : List Json} {as : Option (List Address)}
    (h : addressesDecoder.nullable.Gives none values as) {item : Json}
    (hitem : item ∈ values.flatMap Json.items) : ∃ a, item.Spells a := by
  have hall : List.Forall₂ (fun v a => (∃ a, v.Spells a) ∧ v.Spells a)
      (values.flatMap Json.items) (as.getD []) :=
    h.forall₂.imp fun v a ha => ⟨⟨a, parsed_eq_ok.1 ha⟩, parsed_eq_ok.1 ha⟩
  exact ((List.forall₂_and_left _ _).1 hall).1 item hitem

end Decoder

/-! ## Peers -/

namespace Peer

/-- The names of the fields. -/
def fieldNames : List String :=
  ["ID", "HostName", "DNSName", "OS", "TailscaleIPs", "Tags", "Online"]

theorem format_isPlain : format.IsPlain fieldNames :=
  ⟨rfl, by decide, by simp [format, Decoder.field]⟩

/-- The values which a peer has for its addresses. -/
def addressItems (value : Json) : List Json :=
  (value.values fieldNames "TailscaleIPs").flatMap Json.items

/-- The device which the value of a peer describes. -/
structure Describes (tailnet : String) (value : Json) (d : Device) : Prop where
  /-- the addresses in their order, in canonical form -/
  addresses : ∃ as, List.Forall₂ Json.Spells (addressItems value) as ∧
    d.addresses = as.map Address.text
  api : d.api = "localhost"
  authorized : d.authorized = true
  clientVersion : d.clientVersion = ""
  hostname : Json.textOf? (value.values fieldNames "HostName") = some d.hostname
  id : Json.textOf? (value.values fieldNames "ID") = some d.id
  name : d.name = ""
  /-- a device is connected unless it is explicitly not -/
  online : d.online = false ↔ value.values fieldNames "Online" = [.bool false]
  os : Json.textOf? (value.values fieldNames "OS") = some d.os
  tags : ∀ tag, tag ∈ d.tags.toList ↔
    .string tag ∈ (value.values fieldNames "Tags").flatMap Json.items
  tailnet : d.tailnet = tailnet

/-- What is read of the fields of a peer. -/
structure Reads (value : Json) (p : Peer) : Prop where
  id : Decoder.string.Gives "" (value.values fieldNames "ID") p.id
  hostName : Decoder.string.Gives "" (value.values fieldNames "HostName") p.hostName
  dnsName : Decoder.string.Gives "" (value.values fieldNames "DNSName") p.dnsName
  os : Decoder.string.Gives "" (value.values fieldNames "OS") p.os
  addresses : addressesDecoder.nullable.Gives none (value.values fieldNames "TailscaleIPs")
    p.addresses
  tags : (Decoder.list Decoder.string).nullable.Gives none (value.values fieldNames "Tags") p.tags
  online : Decoder.bool.nullable.Gives none (value.values fieldNames "Online") p.online

theorem reads_of_decode {value : Json} {p : Peer} (h : format.decode value = .ok p) :
    Reads value p := by
  constructor
  all_goals
    refine Format.gives_of_decode format_isPlain ?_ ?_ ?_ h
    · decide
    · simp only [format, List.forall_mem_cons, List.not_mem_nil, false_implies, implies_true,
        and_true]
      and_intros
      all_goals first
        | exact Field.shows_own fun _ _ => rfl
        | exact Field.shows_other (by decide) fun _ _ => rfl
    · rfl

theorem exists_spells {value : Json} {p : Peer} (h : format.decode value = .ok p) {item : Json}
    (hitem : item ∈ addressItems value) : ∃ a, item.Spells a :=
  Decoder.exists_spells (reads_of_decode h).addresses hitem

/-- Whether a device is connected. -/
theorem online_eq_false {value : Json} {p : Peer} (h : Reads value p) :
    p.online.getD true = false ↔ value.values fieldNames "Online" = [.bool false] := by
  have honline := h.online
  generalize p.online = online at honline ⊢
  generalize value.values fieldNames "Online" = values at honline ⊢
  cases honline with
  | absent => simp
  | @single v _ hv =>
    cases v with
    | null => cases hv; simp
    | bool b => cases hv; simp
    | number | text | array | object | broken => cases hv

theorem describes_toDevice {value : Json} {p : Peer} (h : format.decode value = .ok p)
    (tailnet : String) : Describes tailnet value (p.toDevice tailnet) := by
  have hreads := reads_of_decode h
  exact {
    addresses := ⟨_, hreads.addresses.forall₂.imp fun _ _ => Decoder.parsed_eq_ok.1, rfl⟩
    api := rfl
    authorized := rfl
    clientVersion := rfl
    hostname := hreads.hostName.textOf?_eq
    id := hreads.id.textOf?_eq
    name := rfl
    online := online_eq_false hreads
    os := hreads.os.textOf?_eq
    tags := fun tag => by
      rw [Decoder.items_eq_map_string hreads.tags.forall₂, toDevice, TagSet.mem_ofList,
        List.mem_map_of_injective fun _ _ heq => by cases heq; rfl]
    tailnet := rfl }

end Peer

/-! ## The status -/

namespace Status

/-- The names of the fields. -/
def fieldNames : List String := ["TailscaleIPs", "Self", "Peer", "CurrentTailnet"]

theorem format_isPlain : format.IsPlain fieldNames :=
  ⟨rfl, by decide, by simp [format, Decoder.field]⟩

theorem tailnetFormat_isPlain : tailnetFormat.IsPlain ["Name"] :=
  ⟨rfl, by decide, by simp [tailnetFormat, Decoder.field]⟩

/-- The members of a document which are peers, each with its key. -/
def peerMembers (value : Json) : List (Option String × Json) :=
  (value.values fieldNames "Peer").flatMap Json.members

/-- The name of the tailnet which a document gives: it is empty, if it gives none. -/
def tailnetName? (value : Json) : Option String :=
  Json.textOf? <| (value.values fieldNames "CurrentTailnet").flatMap fun tailnet =>
    tailnet.values ["Name"] "Name"

/-- The devices which a document describes: one for each key of a peer, in the order of the bytes of
    the keys, where the last value of a key counts. -/
structure Describes (value : Json) (tailnet : String) (keys : List String) (ds : List Device) :
    Prop where
  name : tailnetName? value = some tailnet
  ascending : keys.Pairwise fun key key' => utf8 key.toList < utf8 key'.toList
  mem_keys : ∀ key, key ∈ keys ↔ ∃ peer, (some key, peer) ∈ peerMembers value
  devices : List.Forall₂ (fun key d => ∃ peer, Json.IsLast (peerMembers value) key peer ∧
    Peer.Describes tailnet peer d) keys ds

/-- What is read of the fields of a status. -/
structure Reads (value : Json) (s : Status) : Prop where
  addresses : addressesDecoder.nullable.Gives none (value.values fieldNames "TailscaleIPs")
    s.addresses
  node : (Decoder.nullable Peer.format.decode).Gives none (value.values fieldNames "Self") s.node
  peers : (Decoder.keyMap Peer.format.decode).nullable.Gives none (value.values fieldNames "Peer")
    s.peers
  tailnet : (Decoder.nullable tailnetFormat.decode).Gives none
    (value.values fieldNames "CurrentTailnet") s.tailnet

theorem reads_of_decoder {value : Json} {s : Status} (h : decoder value = .ok s) :
    Reads value s := by
  constructor
  all_goals
    refine Format.gives_of_decode format_isPlain ?_ ?_ ?_ h
    · decide
    · simp only [format, List.forall_mem_cons, List.not_mem_nil, false_implies, implies_true,
        and_true]
      and_intros
      all_goals first
        | exact Field.shows_own fun _ _ => rfl
        | exact Field.shows_other (by decide) fun _ _ => rfl
    · rfl

variable {value value' : Json} {s s' : Status}

theorem gives_name {value : Json} {name : String} (h : tailnetFormat.decode value = .ok name) :
    Decoder.string.Gives "" (value.values ["Name"] "Name") name := by
  have hshows : ∀ f ∈ tailnetFormat.fields, f.Shows "Name" Decoder.string fun name => name := by
    simpa [tailnetFormat] using Field.shows_own fun _ _ => rfl
  exact Format.gives_of_decode tailnetFormat_isPlain (by decide) hshows rfl h

theorem tailnetName?_eq (h : Reads value s) : tailnetName? value = some (s.tailnet.getD "") := by
  rw [tailnetName?]
  rcases h.tailnet.of_nullable with ⟨hnone, hvalues | hvalues⟩ | ⟨v, name, hvalues, hname, hsome⟩
  · rw [hnone, hvalues]
    rfl
  · rw [hnone, hvalues]
    rfl
  · rw [hsome, hvalues, List.flatMap_singleton]
    exact (gives_name hname).textOf?_eq

theorem peerList_eq (s : Status) : s.peerList = (s.peers.getD KeyMap.empty).entries := by
  rw [peerList]
  cases s.peers <;> rfl

/-- **The devices of a status are those which its document describes.** -/
theorem describes_devices (h : decoder value = .ok s) :
    Describes value (s.tailnet.getD "") (s.peerList.map (·.1)) s.devices := by
  have hreads := reads_of_decoder h
  have hentries := hreads.peers.entries
  have hlast := Decoder.exists_of_entries hentries
  rw [← peerMembers] at hlast
  rw [peerList_eq]
  refine ⟨tailnetName?_eq hreads, ?_, fun key => ?_, ?_⟩
  · rw [List.pairwise_map]
    exact (s.peers.getD KeyMap.empty).sorted.imp utf8_lt_iff.2
  · rcases hlast key with ⟨peer, p, ⟨before, after, hpeer, -⟩, -, hget⟩ | ⟨hnone, hget⟩
    · have hmem := KeyMap.get?_eq_some.1 hget
      exact ⟨fun _ => ⟨peer, by simp [hpeer]⟩, fun _ => List.mem_map_of_mem hmem⟩
    · refine ⟨fun hmem => ?_, fun ⟨peer, hpeer⟩ => absurd hpeer (hnone peer)⟩
      obtain ⟨e, he, rfl⟩ := List.mem_map.1 hmem
      rw [KeyMap.get?_eq_some.2 he] at hget
      cases hget
  · rw [devices, peerList_eq, List.forall₂_map_left_iff, List.forall₂_map_right_iff,
      List.forall₂_same]
    intro e he
    have hget := KeyMap.get?_eq_some.2 he
    rcases hlast e.1 with ⟨peer, p, hpeer, hp, hget'⟩ | ⟨-, hnone⟩
    · obtain rfl := Option.some.inj (hget.symm.trans hget')
      exact ⟨peer, hpeer, Peer.describes_toDevice hp _⟩
    · rw [hget] at hnone
      cases hnone

/-- What else a document tells, of the node itself, does not count. -/
theorem devices_congr (h : decoder value = .ok s) (h' : decoder value' = .ok s')
    (hpeers : value.values fieldNames "Peer" = value'.values fieldNames "Peer")
    (htailnet :
      value.values fieldNames "CurrentTailnet" = value'.values fieldNames "CurrentTailnet") :
    s.devices = s'.devices := by
  have hreads := reads_of_decoder h
  have hreads' := reads_of_decoder h'
  have hp : s.peers = s'.peers := hreads.peers.unique (hpeers ▸ hreads'.peers)
  have ht : s.tailnet = s'.tailnet := hreads.tailnet.unique (htailnet ▸ hreads'.tailnet)
  rw [devices, devices, peerList, peerList, hp, ht]

/-- The values which a document has for addresses, of the node itself and of its peers. -/
def addressItems (value : Json) : List Json :=
  (value.values fieldNames "TailscaleIPs").flatMap Json.items ++
    (value.values fieldNames "Self").flatMap Peer.addressItems ++
    (peerMembers value).flatMap fun m => Peer.addressItems m.2

/-- A document which is read has no address which is none. -/
theorem spells_of_decoder (h : decoder value = .ok s) :
    ∀ item ∈ addressItems value, ∃ a, item.Spells a := by
  have hreads := reads_of_decoder h
  intro item hitem
  rw [addressItems, List.mem_append, List.mem_append] at hitem
  rcases hitem with (hitem | hitem) | hitem
  · exact Decoder.exists_spells hreads.addresses hitem
  · rcases hreads.node.of_nullable with ⟨-, hvalues | hvalues⟩ | ⟨v, p, hvalues, hp, -⟩
    · rw [hvalues] at hitem
      cases hitem
    · rw [hvalues] at hitem
      cases hitem
    · rw [hvalues, List.flatMap_singleton] at hitem
      exact Peer.exists_spells hp hitem
  · obtain ⟨m, hm, hitem⟩ := List.mem_flatMap.1 hitem
    obtain ⟨p, hp⟩ := Decoder.exists_of_mem_entries hreads.peers.entries hm
    exact Peer.exists_spells hp hitem

end Status

end TailnetTargets
