/-
  What the bodies of answers hold.

  * `Service.response_of_targets`: an answer to a visitor who asks for targets either holds those of
    the devices which may be used, or tells of a failure;
  * `decodes_printed`: what is printed of devices and of targets is read again, so the targets which
    are served are read as they were made;
  * `targets_filtered`: which targets and labels are served, whatever filters there are.
-/
import TailnetTargets.Proofs.Device.RoundTrip
import TailnetTargets.Proofs.Target.Filter
import TailnetTargets.Proofs.Target.RoundTrip
import TailnetTargets.Service

namespace TailnetTargets

/-- An answer holds the targets of the devices which may be used, or tells of a failure. -/
theorem Service.response_of_targets {s : Service} {o : Outcome} {r : Response}
    (h : s.targetsResponse o = .ok r) : r = s.devicesResponse o.devices ∨ r.status = 500 := by
  cases o with
  | found devices =>
    cases h
    exact Or.inl rfl
  | failed failure =>
    obtain rfl := Except.ok.inj h
    split
    · exact Or.inl rfl
    · exact Or.inr rfl
  | panicked text => cases h

theorem deviceText_decodes (d : Device) :
    Device.decoder.ofBytes (Text.utf8 d.toJson.render.toList) = .ok d := by
  rw [Decoder.ofBytes_render _ d.toJson_isSound, d.decoder_toJson]

theorem devicesText_decodes (devices : List Device) :
    (Decoder.list Device.decoder).ofBytes
      (Text.utf8 (Json.list (devices.map Device.toJson)).render.toList) = .ok devices := by
  have hsound : (Json.list (devices.map Device.toJson)).IsSound := by
    refine .list fun v hv => ?_
    obtain ⟨d, -, rfl⟩ := List.mem_map.1 hv
    exact d.toJson_isSound
  rw [Decoder.ofBytes_render _ hsound]
  exact Decoder.list_map fun d _ => d.decoder_toJson

theorem groupText_decodes (g : TargetGroup) :
    TargetGroup.decoder.ofBytes (Text.utf8 g.toJson.render.toList) = .ok g := by
  rw [Decoder.ofBytes_render _ g.toJson_isSound, g.decoder_toJson]

/-- **What is printed of devices and of targets is read again**, alone or in lists.  So the body of
    every answer of success is read as the targets of the devices which may be used. -/
theorem decodes_printed :
    (∀ d : Device, Device.decoder.ofBytes (Text.utf8 d.toJson.render.toList) = .ok d) ∧
    (∀ devices : List Device, (Decoder.list Device.decoder).ofBytes
      (Text.utf8 (Json.list (devices.map Device.toJson)).render.toList) = .ok devices) ∧
    (∀ g : TargetGroup, TargetGroup.decoder.ofBytes (Text.utf8 g.toJson.render.toList) = .ok g) ∧
    (∀ groups : List TargetGroup, (Decoder.list TargetGroup.decoder).ofBytes
      (Text.utf8 (Json.list (groups.map TargetGroup.toJson)).render.toList) = .ok groups) ∧
    ∀ (s : Service) (o : Outcome) (r : Response), s.targetsResponse o = .ok r → r.status = 200 →
      (Decoder.list TargetGroup.decoder).ofBytes (Text.utf8 r.body.toList) =
        .ok (targetGroups o.devices s.filters) := by
  refine ⟨deviceText_decodes, devicesText_decodes, groupText_decodes, groupsText_decodes, ?_⟩
  intro s o r hr hstatus
  rcases Service.response_of_targets hr with rfl | hfailed
  · exact groupsText_decodes _
  · rw [hfailed] at hstatus
    cases hstatus

/-- A device whose name needs to be escaped, and which was found before its source failed. -/
theorem decodes_printed_escaped :
    (Decoder.list TargetGroup.decoder).ofBytes (Text.utf8
      ((Service.ofSource (.scripted 0) []).devicesResponse [{ hostname := "\"\\\n" }]).body.toList) =
        .ok (targetGroups [{ hostname := "\"\\\n" }] [.emptyLabels]) :=
  decodes_printed.2.2.2.2 (.ofSource (.scripted 0) [])
    (.failed (.stale [{ hostname := "\"\\\n" }] .canceled)) _ rfl rfl

/-- **What is served depends on the devices, and on whether IPv6 targets are filtered out.**  The
    order of the filters makes no difference, nor does how often they occur.  There is one group for
    each device, in their order, with the device's targets and with those of its labels which have
    a key and a value; and every group has such labels. -/
theorem targets_filtered (source : Source) (filters : List Filter) (devices : List Device) :
    ∃ groups : List TargetGroup,
      groups = targetGroups devices
        (if .ipv6 ∈ filters then [.emptyLabels, .ipv6] else [.emptyLabels]) ∧
      targetGroups devices (Service.ofSource source filters).filters = groups ∧
      (∀ o r, (Service.ofSource source filters).targetsResponse o = .ok r → r.status = 200 →
        o.devices = devices → (Decoder.list TargetGroup.decoder).ofBytes (Text.utf8 r.body.toList) =
          .ok groups) ∧
      groups.length = devices.length ∧
      (∀ (k : Nat) (d : Device), devices[k]? = some d →
        groups[k]? = some (TargetGroup.served filters d)) ∧
      ∀ g ∈ groups, g.labels.entries ≠ [] ∧ ∀ e ∈ g.labels.entries, e.1 ≠ "" ∧ e.2 ≠ "" := by
  have hserved : targetGroups devices (Service.ofSource source filters).filters =
      devices.map (TargetGroup.served filters) := targetGroups_emptyLabels devices filters
  have hnormal : targetGroups devices
        (if .ipv6 ∈ filters then [.emptyLabels, .ipv6] else [.emptyLabels]) =
      devices.map (TargetGroup.served filters) := by
    split
    · next h => simp [targetGroups_emptyLabels, TargetGroup.served, h]
    · next h => simp [targetGroups_emptyLabels, TargetGroup.served, h]
  refine ⟨devices.map (TargetGroup.served filters), hnormal.symm, hserved, ?_, ?_, ?_, ?_⟩
  · intro o r hr hstatus hdevices
    rw [← hserved, ← hdevices]
    rcases Service.response_of_targets hr with rfl | hfailed
    · exact groupsText_decodes _
    · rw [hfailed] at hstatus
      cases hstatus
  · exact List.length_map ..
  · intro k d hd
    rw [List.getElem?_map, hd]
    rfl
  · intro g hg
    obtain ⟨d, -, rfl⟩ := List.mem_map.1 hg
    obtain ⟨value, hvalue⟩ := TargetGroup.exists_fullLabels_ofDevice d
    exact ⟨List.ne_nil_of_mem hvalue, fun e he => (TargetGroup.mem_fullLabels.1 he).2⟩

end TailnetTargets
