/-
  What a source behind a cache of its own finds.

  * `Leaf`: a source which is asked directly, and `Member`: one behind a cache;
  * `Course`: how the call of a member goes: its cache has fresh devices, or the leaf is asked;
  * `Course.Fails`: nothing stands in for what went wrong.  `isStale_of_failure?`: that is what the
    failure of the call tells;
  * `course_of_member`: the call of a member has such a course in every run.
-/
import TailnetTargets.Proofs.Discovery.Cover

namespace TailnetTargets

/-- A source which is asked directly. -/
inductive Leaf where
  | scripted (id : Nat)
  | interface (asked : Interface) (metered : Bool)

def Leaf.source : Leaf → Source
  | scripted id => .scripted id
  | interface asked metered => .interface asked metered

/-- Whether the failures of a leaf are those of a single source.  Those of interfaces are. -/
def Leaf.IsPlain (w : World) : Leaf → Prop
  | scripted id => ∀ cue ∈ (w.scripts id).cues, cue.outcome.IsPlain
  | interface .. => True

/-- A leaf behind a cache. -/
structure Member where
  cache : Nat
  frequency : Duration
  metered : Bool
  leaf : Leaf

def Member.source (m : Member) : Source := .cached m.cache m.frequency m.metered m.leaf.source

/-! ## Courses -/

/-- How the call of a member goes. -/
inductive Course where
  /-- its cache has devices which need no refresh -/
  | hit (devices : List Device)
  /-- its cache, which holds `previous`, asks the leaf, and that ends -/
  | refresh (previous : Option (List Device)) (ended : Outcome)

namespace Course

/-- What the call finds in the cache. -/
def reading : Course → Cache.Reading
  | hit devices => .fresh devices
  | refresh previous _ => .expired previous

/-- The devices in the cache when the call reads it. -/
def kept : Course → Option (List Device)
  | hit devices => some devices
  | refresh previous _ => previous

/-- How the call ends. -/
def outcome : Course → Outcome
  | hit devices => .found devices
  | refresh previous ended => ended.covered previous

/-- The devices which the call contributes: those in the cache when they are fresh, those which were
    found, or those which were in the cache when the refresh fails. -/
def devices : Course → List Device
  | hit devices => devices
  | refresh _ (.found devices) => devices
  | refresh previous (.failed _) => previous.getD []
  | refresh _ (.panicked _) => []

/-- Whether the leaf was asked and panicked. -/
def Panics : Course → Prop
  | refresh _ (.panicked _) => True
  | _ => False

/-- Whether the leaf was asked and failed. -/
def RefreshFails : Course → Prop
  | refresh _ (.failed _) => True
  | _ => False

/-- Whether nothing stands in for what went wrong. -/
def Fails (c : Course) : Prop := c.Panics ∨ (c.kept = none ∧ c.RefreshFails)

/-- Whether a failure of the leaf is one of a single source. -/
def IsPlain : Course → Prop
  | hit _ => True
  | refresh _ ended => ended.IsPlain

theorem devices_outcome {c : Course} (h : c.IsPlain) : c.outcome.devices = c.devices := by
  cases c with
  | hit devices => rfl
  | refresh previous ended =>
    cases ended with
    | found devices => rfl
    | panicked text => rfl
    | failed f =>
      cases previous with
      | some kept => rfl
      | none => cases f <;> first | rfl | cases h

/-- The failure of a call is stale unless nothing stands in for what went wrong. -/
theorem isStale_of_failure? {c : Course} (h : c.IsPlain) {f : Failure}
    (hf : c.outcome.failure? = some f) : f.isStale = false ↔ c.Fails := by
  cases c with
  | hit devices => cases hf
  | refresh previous ended =>
    cases ended with
    | found devices => cases hf
    | panicked text =>
      cases hf
      exact ⟨fun _ => Or.inl trivial, fun _ => rfl⟩
    | failed g =>
      cases previous with
      | none =>
        cases hf
        refine ⟨fun _ => Or.inr ⟨rfl, trivial⟩, fun _ => ?_⟩
        have hg : g.IsPlain := h
        cases g <;> first | rfl | cases hg
      | some kept =>
        cases hf
        constructor
        · intro hstale
          cases hstale
        · rintro (hpanics | ⟨hkept, -⟩)
          · cases hpanics
          · cases hkept

theorem failure?_of_fails {c : Course} (h : c.Fails) : ∃ f, c.outcome.failure? = some f := by
  cases c with
  | hit devices => rcases h with h | ⟨-, h⟩ <;> cases h
  | refresh previous ended =>
    cases ended with
    | found devices => rcases h with h | ⟨-, h⟩ <;> cases h
    | panicked text => exact ⟨_, rfl⟩
    | failed g => exact ⟨_, rfl⟩

theorem eq_hit_of_reading {c : Course} {devices : List Device} (h : c.reading = .fresh devices) :
    c = .hit devices := by
  cases c with
  | hit kept =>
    cases h
    rfl
  | refresh previous ended => cases h

/-- What a call finds in its cache and how it ends tell how it went. -/
theorem eq_refresh_of_reading {c : Course} {previous : Option (List Device)} {ended : Outcome}
    (h : c.reading = .expired previous) (ho : c.outcome = ended.covered previous) :
    c = .refresh previous ended := by
  cases c with
  | hit kept => cases h
  | refresh kept last =>
    cases h
    rw [Outcome.covered_injective previous ho]

end Course

/-! ## Calls -/

theorem Script.next_isPlain {s : Script} (h : ∀ cue ∈ s.cues, cue.outcome.IsPlain) :
    s.next.outcome.IsPlain := by
  unfold Script.next
  cases hget : s.cues[s.calls]? with
  | some cue => exact h cue (List.mem_of_getElem? hget)
  | none =>
    cases hlast : s.cues.getLast? with
    | some cue => exact h cue (List.mem_of_getLast? hlast)
    | none => trivial

namespace World

/-- Whether a task waits for the outcome of a single source. -/
def WaitsPlainly : Phase → Prop
  | .paused pause => pause.outcome.IsPlain
  | .calling _ => True
  | _ => False

section
variable {w : World} {i : Nat} {t : Task}

/-- Who waits for a single source goes on waiting, ends as that does, or is dropped. -/
theorem waitsPlainly_step (ht : w.tasks[i]? = some t) (hp : WaitsPlainly t.phase) (l : Label) :
    ∃ phase, (w.step l).tasks[i]? = some { t with phase } ∧
      (WaitsPlainly phase ∨ (∃ o : Outcome, o.IsPlain ∧
        phase = .finished (o.coveredBy t.refreshes)) ∨ phase = .dropped) := by
  obtain ⟨t', ht', hm⟩ := moves_step l ht
  cases hm with
  | stays => exact ⟨t.phase, ht', Or.inl hp⟩
  | calls _ hready => rw [hready] at hp; cases hp
  | @waits phase new _ _ h =>
    refine ⟨phase, ht', Or.inl ?_⟩
    cases hph : t.phase with
    | calling call =>
      rw [hph] at h
      obtain ⟨-, call', rfl⟩ := h
      trivial
    | _ => rw [hph] at h; cases h
  | @ends o _ _ h =>
    refine ⟨_, ht', Or.inr (Or.inl ⟨o, ?_, rfl⟩)⟩
    cases hph : t.phase with
    | paused pause =>
      rw [hph] at h hp
      rcases h with rfl | rfl
      · trivial
      · exact hp
    | calling call => rw [hph] at h; exact h
    | _ => rw [hph] at hp; cases hp
  | drops => exact ⟨.dropped, ht', Or.inr (Or.inr rfl)⟩

theorem waitsPlainly_after (ht : w.tasks[i]? = some t) (hp : WaitsPlainly t.phase)
    {labels : List Label} {o : Outcome} (ho : (w.after labels).outcome? i = some o) :
    ∃ ended : Outcome, ended.IsPlain ∧ o = ended.coveredBy t.refreshes := by
  induction labels generalizing w t with
  | nil =>
    obtain ⟨t', ht', hout⟩ := Option.bind_eq_some_iff.1 ho
    obtain rfl := Option.some.inj (ht.symm.trans ht')
    unfold Task.outcome? at hout
    split at hout
    · next hph => rw [hph] at hp; cases hp
    · cases hout
  | cons l labels ih =>
    obtain ⟨phase, h, hphase⟩ := waitsPlainly_step ht hp l
    rw [after_cons] at ho
    rcases hphase with hphase | ⟨ended, hended, rfl⟩ | rfl
    · have hlater := ih h hphase ho
      exact hlater
    · have hout : (w.step l).outcome? i = some (ended.coveredBy t.refreshes) := by
        rw [outcome?, h]
        rfl
      rw [outcome?_after labels hout] at ho
      exact ⟨ended, hended, (Option.some.inj ho).symm⟩
    · rw [outcome?, task_after_of_isOver h rfl labels] at ho
      cases ho

theorem calls_leaf {leaf : Leaf} {rs : List Refresh} {base : Source}
    (h : w.Calls leaf.source rs base) : rs = [] ∧ base = leaf.source := by
  cases leaf <;> cases h <;> exact ⟨rfl, rfl⟩

/-- A leaf ends or waits as a single source does. -/
theorem plain_of_leaf {leaf : Leaf} (hleaf : leaf.IsPlain w) (scope : Scope) (i : Nat) :
    (∀ o, w.SourceEnds leaf.source o → o.IsPlain) ∧
      ∀ phase new, w.SourceWaits scope i leaf.source phase new → WaitsPlainly phase := by
  cases leaf with
  | scripted id =>
    have hnext := Script.next_isPlain hleaf
    constructor
    · rintro o rfl
      exact hnext
    · rintro phase new ⟨-, pause, rfl, hpause⟩
      change pause.outcome.IsPlain
      rwa [hpause]
  | interface asked metered =>
    refine ⟨fun o ho => ho, ?_⟩
    rintro phase new ⟨-, call, rfl⟩
    trivial

/-- The call of a member has a course, and where that says that the leaf was asked, the leaf has
    ended for the task of the call as the course says. -/
theorem course_of_member {m : Member} (hleaf : m.leaf.IsPlain w) (ht : w.tasks[i]? = some t)
    (hs : t.phase = .ready m.source) (hrs : t.refreshes = []) {later : List Label} {o : Outcome}
    (ho : ((w.run i).after later).outcome? i = some o) :
    ∃ c : Course, c.IsPlain ∧ (w.caches m.cache).read w.clock = c.reading ∧ c.outcome = o ∧
      ∀ previous ended, c = .refresh previous ended → ∃ mid rest, later = mid ++ rest ∧
        w.EndsAt i m.leaf.source mid ended := by
  cases hread : (w.caches m.cache).read w.clock with
  | fresh devices =>
    have hout : (w.run i).outcome? i = some (.found devices) := by
      rw [outcome?, run_of_fresh ht hs (.self _) hread]
      rfl
    rw [outcome?_after later hout] at ho
    exact ⟨.hit devices, trivial, rfl, Option.some.inj ho, fun _ _ h => (by cases h)⟩
  | expired previous =>
    obtain ⟨rs, base, hc, hturn⟩ := run_of_expired ht hs (.self _) hread
    obtain ⟨rfl, rfl⟩ := calls_leaf hc
    obtain ⟨hends, hwaits⟩ := plain_of_leaf hleaf t.scope i
    obtain ⟨phase, h, hphase⟩ := hturn.task_self (pushAll_task_self _ ht)
    have hcovered : ∃ ended : Outcome, ended.IsPlain ∧ o = ended.covered previous := by
      rcases hphase with ⟨new, hw, -⟩ | ⟨ended, hended, rfl⟩
      · obtain ⟨ended, hended, rfl⟩ := waitsPlainly_after h (hwaits _ _ hw) ho
        exact ⟨ended, hended, by rw [hrs]; rfl⟩
      · have hout : (w.run i).outcome? i = some (ended.covered previous) := by
          rw [outcome?, h, hrs]
          rfl
        rw [outcome?_after later hout] at ho
        exact ⟨ended, hends _ hended, (Option.some.inj ho).symm⟩
    obtain ⟨ended, hended, rfl⟩ := hcovered
    rw [outcome?_of_expired ht hs hrs (.self _) hread] at ho
    obtain ⟨ended', hdirect, hsame⟩ := Option.map_eq_some_iff.1 ho
    obtain rfl := Outcome.covered_injective previous hsame
    refine ⟨.refresh previous ended', hended, rfl, rfl, ?_⟩
    rintro _ _ ⟨⟩
    exact exists_endsAt hdirect

end

/-! ## Runs -/

section
variable {w₀ : World}

theorem isPlain_after {leaf : Leaf} (h : leaf.IsPlain w₀) (labels : List Label) :
    leaf.IsPlain (w₀.after labels) := by
  cases leaf with
  | scripted id =>
    intro cue hcue
    rw [cues_after] at hcue
    exact h cue hcue
  | interface asked metered => trivial

/-- What a call finds in a cache is what was committed last. -/
theorem kept_of_reading (hw : w₀.IsNew) {labels : List Label} {id : Nat} {c : Course}
    (h : ((w₀.after labels).caches id).read (w₀.after labels).clock = c.reading) :
    (w₀.commits id labels).getLast?.map Commit.devices = c.kept := by
  rw [read_after hw] at h
  cases hlast : (w₀.commits id labels).getLast? with
  | none =>
    rw [hlast] at h
    cases c with
    | hit devices => cases h
    | refresh previous ended => cases h; rfl
  | some commit =>
    simp only [hlast] at h
    cases c with
    | hit devices =>
      split at h
      · cases h; rfl
      · cases h
    | refresh previous ended =>
      split at h
      · cases h
      · cases h; rfl

end

end World

end TailnetTargets
