/-
  What the labels of a device tell about it.

  * `KeyMap.get?_ofList_append`, `KeyMap.get?_filter`, `KeyMap.ext_get?`: what is looked up in a map,
    and that nothing else makes it up;
  * `TargetGroup.fixedKeys`, `TargetGroup.tagKeys`: the keys of the labels which every device has,
    and of those which its tags give it.  No tag has the key of a field (`ofTag_notMem_fixedKeys`);
  * `TargetGroup.Describes`: the labels which describe a device, key by key;
  * `Device.Indistinct`: devices with the same fields, and with tags of the same keys;
  * `labels_describe`: **the group of a device has just the labels which describe it, and without
    empty labels two devices have the same group if and only if they are indistinct**.

  The filter drops the label of a field which is empty.  A missing label is taken for an empty one,
  so that a key tells the same with and without the filter (`text_fullLabels`).
-/
import Mathlib.Data.List.Dedup
import Mathlib.Data.List.Forall2
import Mathlib.Data.List.Sort
import TailnetTargets.Proofs.Target.Filter

namespace TailnetTargets

namespace KeyMap

variable {α : Type} {m n : KeyMap α}

theorem nodup_keys (m : KeyMap α) : m.keys.Nodup :=
  List.pairwise_map.2 (m.sorted.imp fun hlt => String.ne_of_lt hlt)

theorem get?_eq_some {key : String} {value : α} :
    m.get? key = some value ↔ (key, value) ∈ m.entries := by
  obtain ⟨entries, hsorted⟩ := m
  change entries.lookup key = some value ↔ _
  induction entries with
  | nil => simp
  | cons e rest ih =>
    obtain ⟨hhead, htail⟩ := List.pairwise_cons.1 hsorted
    rw [lookup_entry, List.mem_cons]
    split
    · next heq =>
      -- no entry behind the first one has its key
      have hrest : (key, value) ∉ rest :=
        fun hmem => String.lt_irrefl _ (heq ▸ hhead (key, value) hmem)
      rw [or_iff_left hrest, Prod.ext_iff]
      simp [heq, eq_comm]
    · next hne => simp [Prod.ext_iff, hne, ih htail]

theorem ext_get? (h : ∀ key, m.get? key = n.get? key) : m = n := by
  have hasymm : Std.Asymm fun p q : String × α => p.1 < q.1 := ⟨fun _ _ => String.lt_asymm⟩
  refine ext_entries (m.sorted.eq_of_mem_iff n.sorted fun e => ?_)
  rw [← get?_eq_some, ← get?_eq_some, h]

theorem get?_filter (m : KeyMap α) (keep : String → α → Bool) (key : String) :
    (m.filter keep).get? key = (m.get? key).filter (keep key) := by
  ext value
  rw [Option.filter_eq_some_iff, get?_eq_some, get?_eq_some, filter, List.mem_filter]

/-- Of pairs behind others those count which give the key a value. -/
theorem get?_ofList_append (front back : List (String × α)) (key : String) :
    (ofList (front ++ back)).get? key = ((ofList back).get? key).or ((ofList front).get? key) := by
  have hfold : ∀ (pairs : List (String × α)) (m : KeyMap α),
      (pairs.foldl (fun m p => m.insert p.1 p.2) m).get? key =
        ((ofList pairs).get? key).or (m.get? key) := by
    intro pairs
    induction pairs with
    | nil => exact fun m => rfl
    | cons p pairs ih =>
      intro m
      rw [List.foldl_cons, ofList, List.foldl_cons, ih, ih (empty.insert p.1 p.2), get?_insert,
        get?_insert, Option.or_assoc]
      split <;> rfl
  rw [ofList, List.foldl_append, hfold]
  rfl

/-- A map in which all keys have one value. -/
theorem get?_ofList_const (keys : List String) (value : α) (key : String) :
    (ofList (keys.map fun k => (k, value))).get? key =
      if key ∈ keys then some value else none := by
  have hkey : key ∈ (ofList (keys.map fun k => (k, value))).keys ↔ key ∈ keys := by
    simp [mem_keys_ofList]
  split
  · next hmem =>
    obtain ⟨⟨k, v⟩, he, rfl⟩ := List.mem_map.1 (hkey.2 hmem)
    obtain ⟨k', -, heq⟩ := List.mem_map.1 (of_mem_ofList he)
    rw [get?_eq_some]
    rwa [← (Prod.mk.inj heq).2] at he
  · next hnot =>
    refine Option.eq_none_iff_forall_ne_some.2 fun v hv => hnot (hkey.1 ?_)
    exact List.mem_map_of_mem (get?_eq_some.1 hv)

/-- A map of pairs with different keys has all of them. -/
theorem get?_ofList_of_mem {pairs : List (String × α)} (hkeys : (pairs.map (·.1)).Nodup)
    {key : String} {value : α} (h : (key, value) ∈ pairs) :
    (ofList pairs).get? key = some value := by
  have hkey : key ∈ (ofList pairs).keys := mem_keys_ofList.2 (List.mem_map_of_mem h)
  obtain ⟨e, he, rfl⟩ := List.mem_map.1 hkey
  have heq : e = (e.1, value) := List.inj_on_of_nodup_map hkeys (of_mem_ofList he) h rfl
  rw [heq] at he
  exact get?_eq_some.2 he

end KeyMap

theorem boolText_injective {a b : Bool} (h : boolText a = boolText b) : a = b := by
  revert a b
  decide

namespace TargetGroup

/-- The keys of the labels which every device has. -/
def fixedKeys : List String :=
  [Label.api, Label.authorized, Label.clientVersion, Label.hostname, Label.id, Label.name,
    Label.online, Label.os, Label.tailnet]

/-- The keys of the labels of the tags of a device, once for each tag. -/
def tagKeys (d : Device) : List String := d.tags.toList.map Label.ofTag

theorem nodup_fixedKeys : fixedKeys.Nodup := by decide

/-- No tag has the key of a field. -/
theorem ofTag_notMem_fixedKeys (tag : String) : Label.ofTag tag ∉ fixedKeys := by
  have hstem : Label.tagStem.toList <+: (Label.ofTag tag).toList := by
    rw [Label.ofTag, String.toList_append]
    exact List.prefix_append _ _
  have hfixed : ∀ key ∈ fixedKeys, ¬ Label.tagStem.toList <+: key.toList := by decide +kernel
  exact fun hmem => hfixed _ hmem hstem

theorem notMem_fixedKeys {d : Device} {key : String} (h : key ∈ tagKeys d) : key ∉ fixedKeys := by
  obtain ⟨tag, -, rfl⟩ := List.mem_map.1 h
  exact ofTag_notMem_fixedKeys tag

theorem labels_ofDevice (d : Device) :
    (ofDevice d).labels = KeyMap.ofList (fixedLabels d ++ tagLabels d) := by
  rw [ofDevice]

theorem keys_tagLabels (d : Device) : (tagLabels d).map (·.1) = tagKeys d := by
  rw [tagLabels, tagKeys, List.map_map, Function.comp_def]

/-- A key has its value from the tags of a device or from its fields. -/
theorem get?_labels (d : Device) (key : String) :
    (ofDevice d).labels.get? key =
      if key ∈ tagKeys d then some Label.tagValue else (KeyMap.ofList (fixedLabels d)).get? key := by
  have htags : tagLabels d = (tagKeys d).map fun k => (k, Label.tagValue) := by
    rw [tagLabels, tagKeys, List.map_map, Function.comp_def]
  rw [labels_ofDevice, htags, KeyMap.get?_ofList_append, KeyMap.get?_ofList_const]
  split <;> rfl

theorem get?_labels_of_mem {d : Device} {key : String} (h : key ∈ tagKeys d) :
    (ofDevice d).labels.get? key = some Label.tagValue := by
  rw [get?_labels, if_pos h]

theorem get?_labels_of_mem_fixedKeys {d : Device} {key : String} (h : key ∈ fixedKeys) :
    (ofDevice d).labels.get? key = (KeyMap.ofList (fixedLabels d)).get? key := by
  rw [get?_labels, if_neg fun htag => notMem_fixedKeys htag h]

theorem mem_keys_labels {d : Device} {key : String} :
    key ∈ (ofDevice d).labels.keys ↔ key ∈ fixedKeys ∨ key ∈ tagKeys d := by
  have hfixed : (fixedLabels d).map (·.1) = fixedKeys := rfl
  rw [labels_ofDevice, KeyMap.mem_keys_ofList, List.map_append, List.mem_append, hfixed,
    keys_tagLabels]

/-- The labels which describe a device: one for each of nine fields, with the value of the field,
    and one for each key of a tag. -/
structure Describes (labels : KeyMap String) (d : Device) : Prop where
  api : labels.get? Label.api = some d.api
  authorized : labels.get? Label.authorized = some (boolText d.authorized)
  clientVersion : labels.get? Label.clientVersion = some d.clientVersion
  hostname : labels.get? Label.hostname = some d.hostname
  id : labels.get? Label.id = some d.id
  name : labels.get? Label.name = some d.name
  online : labels.get? Label.online = some (boolText d.online)
  os : labels.get? Label.os = some d.os
  tailnet : labels.get? Label.tailnet = some d.tailnet
  /-- every tag has its label -/
  tag : ∀ tag ∈ d.tags.toList, labels.get? (Label.ofTag tag) = some Label.tagValue
  /-- every other label is that of a tag -/
  other : ∀ key value, (key, value) ∈ labels.entries → key ∉ fixedKeys →
    ∃ tag ∈ d.tags.toList, key = Label.ofTag tag ∧ value = Label.tagValue
  /-- tags with one key share their label -/
  count : labels.entries.length = 9 + (tagKeys d).dedup.length

/-- There are as many labels as fields and keys of tags. -/
theorem length_labels (d : Device) :
    (ofDevice d).labels.entries.length = 9 + (tagKeys d).dedup.length := by
  have hnodup : (fixedKeys ++ (tagKeys d).dedup).Nodup := by
    refine List.nodup_append.2 ⟨nodup_fixedKeys, List.nodup_dedup _, ?_⟩
    rintro key hfixed _ htag rfl
    exact notMem_fixedKeys (List.mem_dedup.1 htag) hfixed
  have hperm : (ofDevice d).labels.keys.Perm (fixedKeys ++ (tagKeys d).dedup) := by
    refine (List.perm_ext_iff_of_nodup (KeyMap.nodup_keys _) hnodup).2 fun key => ?_
    rw [mem_keys_labels, List.mem_append, List.mem_dedup]
  calc (ofDevice d).labels.entries.length
      = (ofDevice d).labels.keys.length := (List.length_map _).symm
    _ = (fixedKeys ++ (tagKeys d).dedup).length := hperm.length_eq
    _ = 9 + (tagKeys d).dedup.length := List.length_append

-- tags which differ in their case and in their separators only share a label
example : (tagKeys { tags := .ofList ["tag:Prod-1", "tag:prod:1"] }).dedup =
    ["__meta_tailscale_device_tag_prod_1"] := by decide +kernel

theorem describes_ofDevice (d : Device) : Describes (ofDevice d).labels d := by
  have hkeys : ((fixedLabels d).map (·.1)).Nodup := nodup_fixedKeys
  have hfield : ∀ {key value : String}, key ∈ fixedKeys → (key, value) ∈ fixedLabels d →
      (ofDevice d).labels.get? key = some value := by
    intro key value hkey hvalue
    rw [get?_labels_of_mem_fixedKeys hkey, KeyMap.get?_ofList_of_mem hkeys hvalue]
  constructor
  case count => exact length_labels d
  case tag => exact fun tag htag => get?_labels_of_mem (List.mem_map_of_mem htag)
  case other =>
    intro key value he hkey
    have htag : key ∈ tagKeys d :=
      (mem_keys_labels.1 (List.mem_map_of_mem he)).resolve_left hkey
    obtain ⟨tag, hmem, heq⟩ := List.mem_map.1 htag
    have hvalue := KeyMap.get?_eq_some.2 he
    rw [get?_labels_of_mem htag] at hvalue
    exact ⟨tag, hmem, heq.symm, (Option.some.inj hvalue).symm⟩
  all_goals exact hfield (by simp [fixedKeys]) (by simp [fixedLabels])

/-- The text of a key, where a missing label has none. -/
def text (labels : KeyMap String) (key : String) : String := (labels.get? key).getD ""

/-- Only empty labels are missing when empty labels are filtered out. -/
theorem text_fullLabels {g : TargetGroup} {key : String} (hkey : key ≠ "") :
    text g.fullLabels key = text g.labels key := by
  rw [text, text, fullLabels, KeyMap.get?_filter]
  cases g.labels.get? key with
  | none => rfl
  | some value =>
    by_cases hvalue : value = ""
    · simp [Option.filter, hvalue]
    · simp [Option.filter, hkey, hvalue]

end TargetGroup

open TargetGroup

/-- Devices with the same fields, and with tags of the same keys. -/
structure Device.Indistinct (d e : Device) : Prop where
  addresses : d.addresses = e.addresses
  api : d.api = e.api
  authorized : d.authorized = e.authorized
  clientVersion : d.clientVersion = e.clientVersion
  hostname : d.hostname = e.hostname
  id : d.id = e.id
  name : d.name = e.name
  online : d.online = e.online
  os : d.os = e.os
  tailnet : d.tailnet = e.tailnet
  tagKeys : ∀ key, key ∈ tagKeys d ↔ key ∈ tagKeys e

namespace TargetGroup

variable {d e : Device}

/-- Indistinct devices have one group, also when none of its labels is dropped. -/
theorem ofDevice_eq (h : d.Indistinct e) : ofDevice d = ofDevice e := by
  have hfixed : fixedLabels d = fixedLabels e := by
    simp only [fixedLabels, h.api, h.authorized, h.clientVersion, h.hostname, h.id, h.name,
      h.online, h.os, h.tailnet]
  have hlabels : (ofDevice d).labels = (ofDevice e).labels := by
    refine KeyMap.ext_get? fun key => ?_
    simp only [get?_labels, h.tagKeys key, hfixed]
  calc ofDevice d = ⟨d.addresses, (ofDevice d).labels⟩ := by rw [ofDevice]
    _ = ⟨e.addresses, (ofDevice e).labels⟩ := by rw [h.addresses, hlabels]
    _ = ofDevice e := by rw [ofDevice]

/-- A device with the labels of another one has the keys of its tags. -/
theorem mem_tagKeys_of_text
    (h : ∀ key, key ≠ "" → text (ofDevice d).labels key = text (ofDevice e).labels key)
    {key : String} (hkey : key ∈ tagKeys d) : key ∈ tagKeys e := by
  have hfixed := notMem_fixedKeys hkey
  have hne : key ≠ "" := by
    rintro rfl
    obtain ⟨tag, -, heq⟩ := List.mem_map.1 hkey
    simp [Label.ofTag, Label.tagStem] at heq
  by_contra hnot
  have hnone : (ofDevice e).labels.get? key = none := by
    refine Option.eq_none_iff_forall_ne_some.2 fun value hvalue => ?_
    have hmem := mem_keys_labels.1 (List.mem_map_of_mem (KeyMap.get?_eq_some.1 hvalue))
    exact hmem.elim hfixed hnot
  have htext := h key hne
  rw [text, text, get?_labels_of_mem hkey, hnone] at htext
  exact absurd htext (by decide)

/-- Devices whose groups have the same labels without the empty ones are told apart by nothing. -/
theorem indistinct_of_served (h : served [] d = served [] e) : d.Indistinct e := by
  have haddresses : d.addresses = e.addresses := congrArg targets h
  have hfull : (ofDevice d).fullLabels = (ofDevice e).fullLabels := congrArg labels h
  have htext : ∀ key, key ≠ "" →
      text (ofDevice d).labels key = text (ofDevice e).labels key := by
    intro key hkey
    rw [← text_fullLabels hkey, hfull, text_fullLabels hkey]
  have hfield : ∀ {key v w : String}, key ≠ "" → (ofDevice d).labels.get? key = some v →
      (ofDevice e).labels.get? key = some w → v = w := by
    intro key v w hkey hv hw
    have hvw := htext key hkey
    rwa [text, text, hv, hw] at hvw
  have hd := describes_ofDevice d
  have he := describes_ofDevice e
  exact {
    addresses := haddresses
    api := hfield (by decide) hd.api he.api
    authorized := boolText_injective (hfield (by decide) hd.authorized he.authorized)
    clientVersion := hfield (by decide) hd.clientVersion he.clientVersion
    hostname := hfield (by decide) hd.hostname he.hostname
    id := hfield (by decide) hd.id he.id
    name := hfield (by decide) hd.name he.name
    online := boolText_injective (hfield (by decide) hd.online he.online)
    os := hfield (by decide) hd.os he.os
    tailnet := hfield (by decide) hd.tailnet he.tailnet
    tagKeys := fun key => ⟨mem_tagKeys_of_text htext,
      mem_tagKeys_of_text fun key hkey => (htext key hkey).symm⟩ }

theorem served_eq_iff : served [] d = served [] e ↔ d.Indistinct e := by
  refine ⟨indistinct_of_served, fun h => ?_⟩
  rw [served, served, ofDevice_eq h, h.addresses]

/-- Devices of two lists have the same groups if and only if they are indistinct one by one. -/
theorem targetGroups_eq_iff {devices others : List Device} :
    targetGroups devices [.emptyLabels] = targetGroups others [.emptyLabels] ↔
      List.Forall₂ Device.Indistinct devices others := by
  rw [targetGroups_emptyLabels, targetGroups_emptyLabels, ← List.forall₂_eq_eq_eq,
    List.forall₂_map_left_iff, List.forall₂_map_right_iff]
  simp only [served_eq_iff]

/-- **The group of a device has just the labels which describe it**, and without empty labels two
    devices have the same group if and only if they are indistinct. -/
theorem labels_describe :
    (∀ d, Describes (ofDevice d).labels d) ∧
      ∀ d e, targetGroups [d] [.emptyLabels] = targetGroups [e] [.emptyLabels] ↔
        d.Indistinct e := by
  refine ⟨describes_ofDevice, fun d e => ?_⟩
  rw [targetGroups_eq_iff]
  simp

end TargetGroup

end TailnetTargets
