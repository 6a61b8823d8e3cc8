/-
  What filters leave of targets.

  * `KeyMap.mem_keys_ofList`, `KeyMap.of_mem_ofList`: what is in a map which was made of pairs;
  * `overIPv4?_idem`: a target in the form in which it is reached over IPv4 stays as it is;
  * `TargetGroup.fullLabels`: the labels with a key and a value.  The group of a device has some
    (`exists_fullLabels_ofDevice`);
  * `Filter.applyAll_eq`: what filters leave depends on which of them there are, and neither on
    their order nor on how often they occur;
  * `TargetGroup.served`: the group of a device when empty labels are filtered out, and
    `targetGroups_emptyLabels`: the groups of devices are these.
-/
import TailnetTargets.Proofs.Address.RoundTrip
import TailnetTargets.Proofs.Json.Record
import TailnetTargets.Target.Filter

namespace TailnetTargets

namespace KeyMap

variable {α : Type}

theorem mem_keys_insert {m : KeyMap α} {key k : String} {value : α} :
    k ∈ (m.insert key value).keys ↔ k = key ∨ k ∈ m.keys := by
  obtain ⟨entries, hsorted⟩ := m
  simp only [keys, insert]
  clear hsorted
  induction entries with
  | nil => simp [insertEntry]
  | cons e rest ih =>
    rw [insertEntry]
    split
    · simp
    · next hnlt =>
      split
      · rw [List.map_cons, List.mem_cons, ih, List.map_cons, List.mem_cons, or_left_comm]
      · next hngt =>
        have heq : key = e.1 := String.le_antisymm hngt hnlt
        simp [heq]

theorem mem_keys_ofList {pairs : List (String × α)} {k : String} :
    k ∈ (ofList pairs).keys ↔ k ∈ pairs.map (·.1) := by
  have h : ∀ (pairs : List (String × α)) (m : KeyMap α),
      k ∈ (pairs.foldl (fun m p => m.insert p.1 p.2) m).keys ↔
        k ∈ m.keys ∨ k ∈ pairs.map (·.1) := by
    intro pairs
    induction pairs with
    | nil => simp
    | cons p pairs ih =>
      intro m
      rw [List.foldl_cons, ih, mem_keys_insert, List.map_cons, List.mem_cons, or_assoc,
        or_left_comm]
  rw [ofList, h]
  simp [keys, empty]

theorem of_mem_ofList {pairs : List (String × α)} {e : String × α}
    (h : e ∈ (ofList pairs).entries) : e ∈ pairs := by
  have hfold : ∀ (pairs : List (String × α)) (m : KeyMap α),
      e ∈ (pairs.foldl (fun m p => m.insert p.1 p.2) m).entries → e ∈ m.entries ∨ e ∈ pairs := by
    intro pairs
    induction pairs with
    | nil => exact fun m hm => Or.inl hm
    | cons p pairs ih =>
      intro m hm
      rcases ih _ hm with hm | hp
      · rcases of_mem_insertEntry hm with rfl | hm
        · exact Or.inr (by simp)
        · exact Or.inl hm
      · exact Or.inr (List.mem_cons_of_mem _ hp)
  exact (hfold pairs empty h).resolve_left (by simp [empty])

theorem filter_filter (m : KeyMap α) (keep : String → α → Bool) :
    (m.filter keep).filter keep = m.filter keep := by
  refine ext_entries ?_
  simp [filter, List.filter_filter]

end KeyMap

/-- A target in the form in which it is reached over IPv4 stays as it is. -/
theorem overIPv4?_idem {target form : String} (h : overIPv4? target = some form) :
    overIPv4? form = some form := by
  have hquad : ∀ ip : IPv4, overIPv4? ip.text = some ip.text := by
    intro ip
    rw [overIPv4?, Address.ofText?_text_v4]
  unfold overIPv4? at h
  split at h
  · next hnone =>
    obtain rfl := Option.some.inj h
    rw [overIPv4?, hnone]
  · next ip _ =>
    obtain rfl := Option.some.inj h
    exact hquad ip
  · next ip _ =>
    obtain ⟨ip4, -, rfl⟩ := Option.map_eq_some_iff.1 h
    exact hquad ip4

theorem filterMap_overIPv4?_idem (targets : List String) :
    (targets.filterMap overIPv4?).filterMap overIPv4? = targets.filterMap overIPv4? := by
  rw [List.filterMap_filterMap]
  congr 1
  funext target
  cases h : overIPv4? target with
  | none => rfl
  | some form => exact overIPv4?_idem h

namespace TargetGroup

/-- The labels with a key and a value. -/
def fullLabels (g : TargetGroup) : KeyMap String :=
  g.labels.filter fun key value => !key.isEmpty && !value.isEmpty

theorem mem_fullLabels {g : TargetGroup} {e : String × String} :
    e ∈ g.fullLabels.entries ↔ e ∈ g.labels.entries ∧ e.1 ≠ "" ∧ e.2 ≠ "" := by
  simp [fullLabels, KeyMap.filter]

/-- The group of a device has a label with a key and a value: whether the device may use the
    tailnet is always known. -/
theorem exists_fullLabels_ofDevice (d : Device) :
    ∃ value, (Label.authorized, value) ∈ (ofDevice d).fullLabels.entries := by
  have hlabels : (ofDevice d).labels = KeyMap.ofList (fixedLabels d ++ tagLabels d) := by
    rw [ofDevice]
  have hkey : Label.authorized ∈ (ofDevice d).labels.keys := by
    rw [hlabels, KeyMap.mem_keys_ofList]
    simp [fixedLabels]
  obtain ⟨⟨key, value⟩, hmem, hauthorized⟩ := List.mem_map.1 hkey
  obtain rfl : key = Label.authorized := hauthorized
  have hname : Label.authorized ≠ "" := by decide
  refine ⟨value, mem_fullLabels.2 ⟨hmem, hname, ?_⟩⟩
  rw [hlabels] at hmem
  rcases List.mem_append.1 (KeyMap.of_mem_ofList hmem) with hfixed | htag
  · -- of the fixed labels only one has this key
    have hvalue : value = boolText d.authorized := by
      simpa [fixedLabels, Label.api, Label.authorized, Label.clientVersion, Label.hostname,
        Label.id, Label.name, Label.online, Label.os, Label.tailnet] using hfixed
    rw [hvalue]
    cases d.authorized <;> decide
  · obtain ⟨tag, -, heq⟩ := List.mem_map.1 htag
    rw [← (Prod.mk.inj heq).2]
    decide

end TargetGroup

namespace Filter

/-- What filters leave depends on which of them there are only. -/
theorem applyAll_eq (filters : List Filter) (g : TargetGroup) :
    applyAll filters g =
      ⟨if .ipv6 ∈ filters then g.targets.filterMap overIPv4? else g.targets,
        if .emptyLabels ∈ filters then g.fullLabels else g.labels⟩ := by
  induction filters generalizing g with
  | nil => rfl
  | cons f filters ih =>
    have hcons : applyAll (f :: filters) g = applyAll filters (f.apply g) := rfl
    rw [hcons, ih]
    cases f with
    | emptyLabels =>
      have happly : apply .emptyLabels g = { g with labels := g.fullLabels } := rfl
      have hfull : ({ g with labels := g.fullLabels } : TargetGroup).fullLabels = g.fullLabels := by
        simp only [TargetGroup.fullLabels, KeyMap.filter_filter]
      simp [happly, hfull]
    | ipv6 =>
      have happly : apply .ipv6 g = { g with targets := g.targets.filterMap overIPv4? } := rfl
      have hfull : ({ g with targets := g.targets.filterMap overIPv4? } : TargetGroup).fullLabels =
        g.fullLabels := rfl
      simp [happly, hfull, filterMap_overIPv4?_idem]

end Filter

/-- The group of a device without empty labels: with all targets, or with those which are reached
    over IPv4. -/
def TargetGroup.served (filters : List Filter) (d : Device) : TargetGroup where
  targets := if .ipv6 ∈ filters then d.addresses.filterMap overIPv4? else d.addresses
  labels := (ofDevice d).fullLabels

theorem targetGroups_emptyLabels (devices : List Device) (filters : List Filter) :
    targetGroups devices (.emptyLabels :: filters) = devices.map (TargetGroup.served filters) := by
  refine List.map_congr_left fun d _ => ?_
  rw [Filter.applyAll_eq]
  simp [TargetGroup.served, TargetGroup.ofDevice]

end TailnetTargets
