/-
  What joint sources make of the outcomes which they join.

  * `Outcome.Sums os o`: `o` has the devices of all outcomes `os`, is stale if all their failures
    are, and has their texts, each on a line of its own;
  * `Outcome.SumsAll`: so do several outcomes, each for a part of the others.  `sums_merge`: what
    they are joined to has the devices and the texts of all these;
  * `Outcome.Alike`: two outcomes which nobody who asked can tell apart, as two with the same sum
    are (`Sums.alike`).
-/
import TailnetTargets.Proofs.Discovery.FanOut

namespace TailnetTargets

namespace Failure

theorem messages_eq_map (causes : List Failure) : messages causes = causes.map message := by
  induction causes with
  | nil => rfl
  | cons f causes ih => rw [messages, ih, List.map_cons]

theorem allStale_append (first second : List Failure) :
    allStale (first ++ second) = (allStale first && allStale second) := by
  induction first with
  | nil => rfl
  | cons f first ih => rw [List.cons_append, allStale, ih, allStale, Bool.and_assoc]

/-- The texts of several failures, each on a line of its own. -/
def text (causes : List Failure) : String := "\n".intercalate (causes.map message)

theorem message_aggregate (devices : List Device) (causes : List Failure) :
    (aggregate devices causes).message = text causes :=
  congrArg "\n".intercalate (messages_eq_map causes)

theorem text_append {first second : List Failure} (hfirst : first ≠ []) (hsecond : second ≠ []) :
    text (first ++ second) = text first ++ "\n" ++ text second := by
  rw [text, List.map_append, String.intercalate_append_of_ne_nil (by simpa using hfirst)
    (by simpa using hsecond)]
  rfl

theorem text_singleton (f : Failure) : text [f] = f.message := by
  rw [text, List.map_singleton, String.intercalate_singleton]

end Failure

namespace Outcome

/-- An outcome has the devices of all outcomes, and their failures taken together. -/
structure Sums (os : List Outcome) (o : Outcome) : Prop where
  devices : o.devices = os.flatMap Outcome.devices
  found : failures os = [] → o.failure? = none
  failed : failures os ≠ [] → ∃ f, o.failure? = some f ∧
    f.isStale = Failure.allStale (failures os) ∧ f.message = Failure.text (failures os)

/-- Several outcomes, each of which sums up a part of the others. -/
inductive SumsAll : List Outcome → List Outcome → Prop where
  | nil : SumsAll [] []
  | cons {os os' slots : List Outcome} {o : Outcome} (h : Sums os o) (h' : SumsAll os' slots) :
      SumsAll (os ++ os') (o :: slots)

/-- Two outcomes which nobody who asked can tell apart. -/
inductive Alike : Outcome → Outcome → Prop where
  | found (devices : List Device) : Alike (.found devices) (.found devices)
  | failed {f g : Failure} (hdevices : f.devices = g.devices) (hstale : f.isStale = g.isStale)
      (hmessage : f.message = g.message) : Alike (.failed f) (.failed g)

theorem Sums.self (o : Outcome) : Sums [o] o := by
  cases hf : o.failure? with
  | none =>
    have hnil : failures [o] = [] := by simp [failures, hf]
    exact ⟨by simp, fun _ => hf, fun h => absurd hnil h⟩
  | some f =>
    have hone : failures [o] = [f] := by simp [failures, hf]
    refine ⟨by simp, fun h => by simp [hone] at h, fun _ => ⟨f, hf, ?_, ?_⟩⟩
    · rw [hone]
      simp [Failure.allStale]
    · rw [hone, Failure.text_singleton]

section
variable {os slots : List Outcome}

theorem failures_append (first second : List Outcome) :
    failures (first ++ second) = failures first ++ failures second := List.filterMap_append

/-- An outcome fails if one of those does which it sums up. -/
theorem Sums.failures_cons {o : Outcome} (h : Sums os o) (slots : List Outcome) :
    (failures os = [] ∧ failures (o :: slots) = failures slots) ∨
      failures os ≠ [] ∧ ∃ f, f.isStale = Failure.allStale (failures os) ∧
        f.message = Failure.text (failures os) ∧ failures (o :: slots) = f :: failures slots := by
  by_cases hos : failures os = []
  · exact Or.inl ⟨hos, List.filterMap_cons_none (h.found hos)⟩
  · obtain ⟨f, hf, hstale, hmessage⟩ := h.failed hos
    exact Or.inr ⟨hos, f, hstale, hmessage, List.filterMap_cons_some hf⟩

theorem SumsAll.flatMap_devices (h : SumsAll os slots) :
    slots.flatMap Outcome.devices = os.flatMap Outcome.devices := by
  induction h with
  | nil => rfl
  | cons h _ ih => rw [List.flatMap_cons, List.flatMap_append, h.devices, ih]

theorem SumsAll.failures_eq_nil (h : SumsAll os slots) :
    failures slots = [] ↔ failures os = [] := by
  induction h with
  | nil => rfl
  | @cons os os' slots o h _ ih =>
    rw [failures_append, List.append_eq_nil_iff, ← ih]
    rcases h.failures_cons slots with ⟨hos, hcons⟩ | ⟨hos, f, -, -, hcons⟩
    · simp [hos, hcons]
    · simp [hos, hcons]

theorem SumsAll.allStale_eq (h : SumsAll os slots) :
    Failure.allStale (failures slots) = Failure.allStale (failures os) := by
  induction h with
  | nil => rfl
  | @cons os os' slots o h _ ih =>
    rw [failures_append, Failure.allStale_append, ← ih]
    rcases h.failures_cons slots with ⟨hos, hcons⟩ | ⟨-, f, hstale, -, hcons⟩
    · rw [hos, hcons, Failure.allStale, Bool.true_and]
    · rw [hcons, Failure.allStale, hstale]

theorem SumsAll.text_eq (h : SumsAll os slots) :
    Failure.text (failures slots) = Failure.text (failures os) := by
  induction h with
  | nil => rfl
  | @cons os os' slots o h h' ih =>
    rw [failures_append]
    rcases h.failures_cons slots with ⟨hos, hcons⟩ | ⟨hos, f, -, hmessage, hcons⟩
    · rw [hos, hcons, List.nil_append, ih]
    · by_cases hslots : failures slots = []
      · rw [hcons, hslots, h'.failures_eq_nil.1 hslots, List.append_nil, Failure.text_singleton,
          hmessage]
      · rw [hcons, ← List.singleton_append, Failure.text_append (by simp) hslots,
          Failure.text_append hos (h'.failures_eq_nil.not.1 hslots), Failure.text_singleton,
          hmessage, ih]

/-- Joining outcomes loses nothing of what each of them sums up. -/
theorem SumsAll.sums_merge (h : SumsAll os slots) : Sums os (merge slots) where
  devices := by rw [devices_merge, h.flatMap_devices]
  found hnil := by
    rw [merge, h.failures_eq_nil.2 hnil]
    rfl
  failed hne := by
    have hslots : failures slots ≠ [] := h.failures_eq_nil.not.2 hne
    refine ⟨.aggregate (slots.flatMap Outcome.devices) (failures slots), ?_, ?_, ?_⟩
    · unfold merge
      split
      · next hnil => exact absurd hnil hslots
      · rfl
    · rw [Failure.isStale, h.allStale_eq, List.isEmpty_eq_false_iff.2 hslots]
      rfl
    · rw [← h.text_eq, Failure.message_aggregate]

end

theorem merge_ne_panicked (slots : List Outcome) (text : String) : merge slots ≠ panicked text := by
  unfold merge
  split <;> simp

/-- Outcomes with the same sum, none of which is a panic, cannot be told apart. -/
theorem Sums.alike {os : List Outcome} {o o' : Outcome} (h : Sums os o) (h' : Sums os o')
    (ho : ∀ text, o ≠ panicked text) (ho' : ∀ text, o' ≠ panicked text) : Alike o o' := by
  have hdevices : o.devices = o'.devices := h.devices.trans h'.devices.symm
  by_cases hos : failures os = []
  · have hnone := h.found hos
    have hnone' := h'.found hos
    cases o <;> cases hnone
    cases o' <;> cases hnone'
    obtain rfl : _ = _ := hdevices
    exact .found _
  · obtain ⟨f, hf, hstale, hmessage⟩ := h.failed hos
    obtain ⟨g, hg, hstale', hmessage'⟩ := h'.failed hos
    cases o with
    | found ds => cases hf
    | panicked text => exact absurd rfl (ho text)
    | failed f =>
      cases o' with
      | found ds => cases hg
      | panicked text => exact absurd rfl (ho' text)
      | failed g =>
        cases hf
        cases hg
        exact .failed hdevices (hstale.trans hstale'.symm) (hmessage.trans hmessage'.symm)

end Outcome

end TailnetTargets
