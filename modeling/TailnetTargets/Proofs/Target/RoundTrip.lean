/-
  Served targets are read again as they were.

  * `TargetGroup.decoder_toJson`: a group;
  * `groupsText_decodes`: the text of a list of groups.
-/
import TailnetTargets.Proofs.Json.Record
import TailnetTargets.Proofs.Json.RoundTrip
import TailnetTargets.Target.Json

namespace TailnetTargets

namespace TargetGroup

theorem toJson_isSound (g : TargetGroup) : g.toJson.IsSound := by
  refine .record fun m hm => ?_
  rcases List.mem_cons.1 hm with rfl | hm
  · refine .list fun v hv => ?_
    obtain ⟨s, -, rfl⟩ := List.mem_map.1 hv
    exact .string s
  · unfold labelMember at hm
    split at hm
    · cases hm
    · obtain rfl := List.mem_singleton.1 hm
      refine .record fun m hm => ?_
      obtain ⟨e, -, rfl⟩ := List.mem_map.1 hm
      exact .string e.2

/-- How the targets are read. -/
def targetsField : Field TargetGroup :=
  { (Decoder.list Decoder.string).field "targets" fun v g => { g with targets := v } with
    required := true }

/-- How the labels are read. -/
def labelsField : Field TargetGroup :=
  (Decoder.keyMap Decoder.string).field "labels" fun v g => { g with labels := v }

theorem decoder_toJson (g : TargetGroup) : decoder g.toJson = .ok g := by
  have hstring : ∀ s, Decoder.string (.string s) = .ok s := fun _ => rfl
  have htargets : targetsField.read (.list (g.targets.map .string)) =
      .ok fun group => { group with targets := g.targets } :=
    congrArg (Except.map _) (Decoder.list_map fun s _ => hstring s)
  have hlabels : labelsField.read (.record (g.labels.entries.map fun e => (e.1, .string e.2))) =
      .ok fun group => { group with labels := g.labels } :=
    congrArg (Except.map _) (Decoder.keyMap_entries hstring g.labels)
  have hread : ∀ rest, format.readMembers [] format.start
        ((some "targets", .list (g.targets.map .string)) :: rest) =
      format.readMembers ["targets"] ⟨g.targets, KeyMap.empty⟩ rest :=
    fun _ => Format.readMembers_cons (f := targetsField) rfl (by simp) htargets
  unfold toJson labelMember decoder
  by_cases hempty : g.labels.isEmpty
  · have hnone : KeyMap.empty = g.labels :=
      (KeyMap.ext_entries (List.isEmpty_iff.1 hempty)).symm
    rw [if_pos hempty]
    simp only [Json.record, List.map_cons, List.map_nil, Format.decode, hread]
    rw [hnone]
    rfl
  · rw [if_neg hempty]
    have hread' : ∀ rest group, format.readMembers ["targets"] group
          ((some "labels", .record (g.labels.entries.map fun e => (e.1, .string e.2))) :: rest) =
        format.readMembers ["labels", "targets"] { group with labels := g.labels } rest :=
      fun _ _ => Format.readMembers_cons (f := labelsField) rfl (by decide) hlabels
    simp only [Json.record, List.map_cons, List.map_nil, Format.decode, hread]
    simp only [Json.record] at hread'
    rw [hread']
    rfl

end TargetGroup

/-- **The text of a list of groups is read again as that list.** -/
theorem groupsText_decodes (groups : List TargetGroup) :
    (Decoder.list TargetGroup.decoder).ofBytes (Text.utf8 (groupsText groups).toList) =
      .ok groups := by
  have hsound : (Json.list (groups.map TargetGroup.toJson)).IsSound := by
    refine .list fun v hv => ?_
    obtain ⟨g, -, rfl⟩ := List.mem_map.1 hv
    exact g.toJson_isSound
  rw [groupsText, Decoder.ofBytes_render _ hsound]
  exact Decoder.list_map fun g _ => g.decoder_toJson

end TailnetTargets
