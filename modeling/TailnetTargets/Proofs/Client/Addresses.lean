/-
  The addresses of the devices of a status.

  * `Json.Respelled`: a list of addresses in which one of them is written in another way;
  * `Address.StandsFor`: the IPv4 address which an address is or stands for;
  * `Peer.HasAddresses`: the addresses of a device are the canonical texts of those which its peer
    was given, and over IPv4 just those are left which stand for an IPv4 address, as dotted quads;
  * `Status.addresses_canonical`: **so it is with every device of every status**, and the targets do
    not depend on how addresses are written.
-/
import TailnetTargets.Proofs.Address.Canonical
import TailnetTargets.Proofs.Client.Rewording

namespace TailnetTargets

/-! ## Spellings -/

/-- A list of addresses in which one of them is written in another way. -/
inductive Json.Respelled : Json → Json → Prop
  | intro {before after : List Json} {ending : Option Flaw} {item item' : Json} {a : Address}
      (h : item.Spells a) (h' : item'.Spells a) :
      Respelled (.array (before ++ item :: after) ending) (.array (before ++ item' :: after) ending)

namespace Decoder

theorem items_congr {α : Type} {decoder : Decoder α} {item item' : Json}
    (h : decoder item = decoder item') (before after : List Json) :
    items decoder (before ++ item :: after) = items decoder (before ++ item' :: after) := by
  induction before with
  | nil => rw [List.nil_append, List.nil_append, items, items, h]
  | cons v before ih => rw [List.cons_append, List.cons_append, items, items, ih]

/-- Addresses are read alike, however they are written. -/
theorem addresses_keep : addressesDecoder.nullable.Keeps Json.Respelled fun as => as := by
  have hlist : addressesDecoder.Keeps Json.Respelled fun as => as := by
    rintro _ _ @⟨before, after, ending, item, item', a, h, h'⟩
    have hitem : parsed Address.ofText? item = parsed Address.ofText? item' := by
      rw [parsed_eq_ok.2 h, parsed_eq_ok.2 h']
    rw [addressesDecoder, list, list, items_congr hitem]
    exact .refl _ _
  have hnullable := hlist.nullable fun h => by cases h; simp
  rw [Option.map_id_fun'] at hnullable
  exact hnullable

end Decoder

/-! ## Addresses over IPv4 -/

namespace Address

/-- An IPv4 address stands for itself, and the address which is mapped to it stands for it. -/
inductive StandsFor : Address → IPv4 → Prop
  | v4 (ip : IPv4) : StandsFor (.v4 ip) ip
  | mapped (ip : IPv4) : StandsFor (.v6 ip.mapped) ip

/-- The IPv4 address which an address stands for. -/
def ipv4? : Address → Option IPv4
  | .v4 ip => some ip
  | .v6 ip => ip.mapped?

theorem ipv4?_eq_some {a : Address} {ip : IPv4} : a.ipv4? = some ip ↔ a.StandsFor ip := by
  cases a with
  | v4 ip4 =>
    constructor
    · intro h
      cases h
      exact .v4 ip
    · rintro ⟨⟩
      rfl
  | v6 ip6 =>
    rw [ipv4?, IPv6.mapped?_eq_some]
    constructor
    · rintro rfl
      exact .mapped ip
    · rintro ⟨⟩
      rfl

/-- The text of an address over IPv4. -/
theorem overIPv4?_text (a : Address) : overIPv4? a.text = a.ipv4?.map IPv4.text := by
  rw [overIPv4?, ofText?_text]
  cases a <;> rfl

end Address

/-! ## Devices -/

/-- The addresses of a device are the canonical texts of those which its peer was given, in their
    order.  Over IPv4 just those are left which stand for an IPv4 address, as dotted quads. -/
structure Peer.HasAddresses (peer : Json) (d : Device) (as : List Address) : Prop where
  given : List.Forall₂ Json.Spells (Peer.addressItems peer) as
  canonical : List.Forall₂ (fun a target => a.text = target ∧ Address.ofText? target = some a) as
    d.addresses
  overIPv4 : ∃ forms : List (Option IPv4),
    List.Forall₂ (fun a form => ∀ ip, form = some ip ↔ a.StandsFor ip) as forms ∧
    Filter.apply .ipv6 (.ofDevice d) =
      { TargetGroup.ofDevice d with targets := forms.reduceOption.map IPv4.text }

theorem Peer.Describes.exists_hasAddresses {tailnet : String} {peer : Json} {d : Device}
    (h : Peer.Describes tailnet peer d) : ∃ as, Peer.HasAddresses peer d as := by
  obtain ⟨as, hgiven, has⟩ := h.addresses
  refine ⟨as, hgiven, ?_, as.map Address.ipv4?, ?_, ?_⟩
  · rw [has, List.forall₂_map_right_iff, List.forall₂_same]
    exact fun a _ => ⟨rfl, a.ofText?_text⟩
  · rw [List.forall₂_map_right_iff, List.forall₂_same]
    exact fun a _ ip => Address.ipv4?_eq_some
  · have htargets : (TargetGroup.ofDevice d).targets = as.map Address.text := has
    have hfilter : overIPv4? ∘ Address.text = fun a => a.ipv4?.map IPv4.text :=
      funext Address.overIPv4?_text
    rw [Filter.apply, htargets, List.filterMap_map, hfilter, List.reduceOption, List.filterMap_map,
      List.map_filterMap]
    rfl

namespace Status

/-- **The addresses of devices are canonical.**  The text of an address is read as that address,
    whatever it is.  The addresses of every device of a status are the canonical texts of those
    which its peer was given, and the filter leaves just those of IPv4.  Documents which differ in
    how addresses are written give the same targets. -/
theorem addresses_canonical :
    (∀ a : Address, a.IsSpelling a.text.toList ∧ Address.ofText? a.text = some a) ∧
    (∀ value s, decoder value = .ok s →
      List.Forall₂ (fun key d => ∃ peer as, Json.IsLast (peerMembers value) key peer ∧
        Peer.HasAddresses peer d as) (s.peerList.map (·.1)) s.devices) ∧
    ∀ value value', Rewording Json.Respelled Json.SameItems value value' → ∀ filters groups,
      ((∃ s, decoder value = .ok s ∧ targetGroups s.devices filters = groups) ↔
        ∃ s, decoder value' = .ok s ∧ targetGroups s.devices filters = groups) := by
  refine ⟨fun a => ⟨a.isSpelling_text, a.ofText?_text⟩, fun value s hs => ?_,
    fun value value' h filters groups => ?_⟩
  · refine (describes_devices hs).devices.imp fun key d hd => ?_
    obtain ⟨peer, hpeer, hdescribes⟩ := hd
    obtain ⟨as, has⟩ := hdescribes.exists_hasAddresses
    exact ⟨peer, as, hpeer, has⟩
  · have hdevices := devices_keeps Decoder.addresses_keep Decoder.tags_keep value value' h
    have hgroups := hdevices.coarser fun s s' hs => congrArg (targetGroups · filters) hs
    exact Except.alike_iff.1 hgroups groups

/-- A peer with a mapped address, one of the other family in two spellings, and one of IPv4. -/
theorem addresses_canonical_respelled :
    (∃ peer as, Peer.HasAddresses peer
      { api := "localhost", authorized := true, online := true,
        addresses := ["::ffff:1.2.3.4", "fd7a::1", "100.64.0.3"] } as) ∧
    ∃ s, decoder (.record [("Peer", .record [("a", .record [("TailscaleIPs", .list
        [.string "0:0::FFFF:1.2.3.4", .string "fd7a:0::0001", .string "100.64.0.3"])])])]) = .ok s ∧
      (targetGroups s.devices [.ipv6]).map TargetGroup.targets = [["1.2.3.4", "100.64.0.3"]] := by
  let before : List Json := [.string "0:0::FFFF:1.2.3.4"]
  let after : List Json := [.string "100.64.0.3"]
  let peers (spelling : String) : Json := .record [("a", .record
    [("TailscaleIPs", .list (before ++ .string spelling :: after))])]
  let ip : Address := .v6 ⟨#v[0xfd7a, 0, 0, 0, 0, 0, 0, 1]⟩
  let s : Status := { peers := some (.ofList
    [("a", { addresses := some [.v6 (IPv4.mapped ⟨1, 2, 3, 4⟩), ip, .v4 ⟨100, 64, 0, 3⟩] })]) }
  have hread : decoder (.record [("Peer", peers "FD7A::1")]) = .ok s := rfl
  have hspells : (Json.string "FD7A::1").Spells ip := by
    refine .string (Address.ofText?_eq_some.1 ?_)
    decide +kernel
  have hspells' : (Json.string "fd7a:0::0001").Spells ip := by
    refine .string (Address.ofText?_eq_some.1 ?_)
    decide +kernel
  have hchange : Rewording Json.Respelled Json.SameItems (.record [("Peer", peers "FD7A::1")])
      (.record [("Peer", peers "fd7a:0::0001")]) := by
    refine .rel _ _ (.member (by decide) ?_)
    refine @Json.MapChange.value _ [] [] none (some "a") _ _ (.member (by decide) ?_)
    exact .intro hspells hspells'
  refine ⟨?_, ?_⟩
  · have hdevices : s.devices = [{
        api := "localhost", authorized := true, online := true,
        addresses := ["::ffff:1.2.3.4", "fd7a::1", "100.64.0.3"] }] := by decide +kernel
    have hall := addresses_canonical.2.1 _ _ hread
    rw [hdevices] at hall
    obtain ⟨_, _, ⟨peer, as, -, has⟩, -, -⟩ := List.forall₂_cons_right_iff.1 hall
    exact ⟨peer, as, has⟩
  · obtain ⟨s', hs', hgroups⟩ := (addresses_canonical.2.2 _ _ hchange [.ipv6] _).1 ⟨s, hread, rfl⟩
    refine ⟨s', hs', ?_⟩
    rw [hgroups]
    decide +kernel

end Status

end TailnetTargets
