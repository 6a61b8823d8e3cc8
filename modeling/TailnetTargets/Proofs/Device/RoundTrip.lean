/-
  Devices are read again as they were printed.

  * `TagSet.ofList_toList`: a set of tags is made of its list again;
  * `Device.entries`: the members of a device, and what they change when they are read;
  * `Device.decoder_toJson`: a device.
-/
import TailnetTargets.Device.Json
import TailnetTargets.Proofs.Json.Record
import TailnetTargets.Proofs.Json.RoundTrip

namespace TailnetTargets

namespace TagSet

theorem insertTag_of_lt {tag : String} {tags : List String} (h : ∀ t ∈ tags, t < tag) :
    insertTag tag tags = tags ++ [tag] := by
  induction tags with
  | nil => rfl
  | cons t rest ih =>
    have ht := h t (by simp)
    rw [insertTag, if_neg (fun hlt => String.lt_irrefl _ (String.lt_trans hlt ht)), if_pos ht,
      ih fun u hu => h u (by simp [hu])]
    rfl

/-- Tags in ascending order come behind those which are in the set. -/
theorem toList_foldl_insert {tags : List String} {s : TagSet}
    (h : (s.toList ++ tags).Pairwise (· < ·)) :
    (tags.foldl insert s).toList = s.toList ++ tags := by
  induction tags generalizing s with
  | nil => simp
  | cons t rest ih =>
    have hlt : ∀ u ∈ s.toList, u < t := fun u hu => (List.pairwise_append.1 h).2.2 u hu t (by simp)
    have hinsert : (s.insert t).toList = s.toList ++ [t] := insertTag_of_lt hlt
    rw [List.foldl_cons, ih (by rw [hinsert]; simpa using h), hinsert]
    simp

theorem ofList_toList (s : TagSet) : ofList s.toList = s := by
  have h : (ofList s.toList).toList = s.toList := toList_foldl_insert (s := empty) s.sorted
  cases hs : ofList s.toList
  rw [hs] at h
  cases h
  rfl

end TagSet

namespace Device

theorem toJson_isSound (d : Device) : d.toJson.IsSound := by
  have hlist : ∀ texts : List String, (Json.list (texts.map .string)).IsSound := by
    intro texts
    refine .list fun v hv => ?_
    obtain ⟨s, -, rfl⟩ := List.mem_map.1 hv
    exact .string s
  refine .record fun m hm => ?_
  simp only [members, clientVersionMember, List.mem_append, List.mem_cons, List.not_mem_nil,
    or_false] at hm
  rcases hm with ((rfl | rfl | rfl) | hm) | rfl | rfl | rfl | rfl | rfl | rfl | rfl
  · exact hlist d.addresses
  · exact .string _
  · exact .bool _
  · split at hm
    · cases hm
    · obtain rfl := List.mem_singleton.1 hm
      exact .string _
  · exact .string _
  · exact .string _
  · exact .string _
  · exact .bool _
  · exact .string _
  · exact hlist d.tags.toList
  · exact .string _

/-- The member with the client version, unless it is empty. -/
def clientVersionEntry (d : Device) : List (Format.Entry Device) :=
  if d.clientVersion = "" then []
  else [⟨"clientVersion", .string d.clientVersion,
    fun device => { device with clientVersion := d.clientVersion }⟩]

/-- The members of a device, and what they change when they are read. -/
def entries (d : Device) : List (Format.Entry Device) :=
  [⟨"addresses", .list (d.addresses.map .string),
      fun device => { device with addresses := d.addresses }⟩,
    ⟨"api", .string d.api, fun device => { device with api := d.api }⟩,
    ⟨"authorized", .bool d.authorized, fun device => { device with authorized := d.authorized }⟩]
  ++ d.clientVersionEntry
  ++ [⟨"hostname", .string d.hostname, fun device => { device with hostname := d.hostname }⟩,
    ⟨"id", .string d.id, fun device => { device with id := d.id }⟩,
    ⟨"name", .string d.name, fun device => { device with name := d.name }⟩,
    ⟨"online", .bool d.online, fun device => { device with online := d.online }⟩,
    ⟨"os", .string d.os, fun device => { device with os := d.os }⟩,
    ⟨"tags", .list (d.tags.toList.map .string), fun device => { device with tags := d.tags }⟩,
    ⟨"tailnet", .string d.tailnet, fun device => { device with tailnet := d.tailnet }⟩]

theorem members_eq (d : Device) : d.members = d.entries.map fun e => (e.name, e.value) := by
  unfold members entries clientVersionMember clientVersionEntry
  split <;> rfl

theorem entries_isReadBy (d : Device) : ∀ e ∈ d.entries, e.IsReadBy format := by
  have haddresses : (Decoder.list Decoder.string) (.list (d.addresses.map .string)) =
      .ok d.addresses := Decoder.list_map fun s _ => rfl
  have htags : tagsDecoder (.list (d.tags.toList.map .string)) = .ok d.tags := by
    have hlist : (Decoder.list Decoder.string) (.list (d.tags.toList.map .string)) =
        .ok d.tags.toList := Decoder.list_map fun s _ => rfl
    rw [tagsDecoder, hlist]
    exact congrArg Except.ok d.tags.ofList_toList
  intro e he
  simp only [entries, clientVersionEntry, List.mem_append, List.mem_cons, List.not_mem_nil,
    or_false] at he
  rcases he with ((rfl | rfl | rfl) | he) | rfl | rfl | rfl | rfl | rfl | rfl | rfl
  · exact ⟨_, rfl, rfl, congrArg (Except.map _) haddresses⟩
  · exact ⟨_, rfl, rfl, rfl⟩
  · exact ⟨_, rfl, rfl, rfl⟩
  · split at he
    · cases he
    · obtain rfl := List.mem_singleton.1 he
      exact ⟨_, rfl, rfl, rfl⟩
  · exact ⟨_, rfl, rfl, rfl⟩
  · exact ⟨_, rfl, rfl, rfl⟩
  · exact ⟨_, rfl, rfl, rfl⟩
  · exact ⟨_, rfl, rfl, rfl⟩
  · exact ⟨_, rfl, rfl, rfl⟩
  · exact ⟨_, rfl, rfl, congrArg (Except.map _) htags⟩
  · exact ⟨_, rfl, rfl, rfl⟩

/-- The members change every field but a client version which is empty from the start. -/
theorem putAll_entries (d : Device) : Format.putAll format.start d.entries = d := by
  unfold entries clientVersionEntry
  split
  · next h =>
    cases d
    cases h
    rfl
  · rfl

theorem decoder_toJson (d : Device) : decoder d.toJson = .ok d := by
  have hnames : (d.entries.map Format.Entry.name).Nodup := by
    unfold entries clientVersionEntry
    split <;> simp
  rw [toJson, members_eq, decoder, Format.decode_record d.entries_isReadBy hnames rfl,
    putAll_entries]

end Device

end TailnetTargets
