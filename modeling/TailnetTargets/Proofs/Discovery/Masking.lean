/-
  What covers the failure of a refresh.

  * `World.CoversFailures`: a refresh which fails after devices were committed is covered by those
    which were committed last;
  * `failed_refresh`: it is covered by what was committed when its call read the cache;
  * `crossed`, `crossedAgain`: two calls, the first of which fails when the second one has found
    devices.
-/
import TailnetTargets.Proofs.Discovery.Cover
import TailnetTargets.Proofs.Discovery.Freshness

namespace TailnetTargets

namespace World

/-- A refresh of a cache which fails after devices were committed to it is covered by those which
    were committed last. -/
def CoversFailures (w₀ : World) (labels : List Label) (id : Nat) : Prop :=
  ∀ (before mid later : List Label) (i : Nat) (t : Task) (s : Source) (rs : List Refresh)
    (frequency : Duration) (metered : Bool) (inner : Source) (previous : Option (List Device))
    (f : Failure) (c : Commit),
    labels = before ++ .run i :: (mid ++ later) →
    (w₀.after before).tasks[i]? = some t → t.phase = .ready s →
    (w₀.after before).Calls s rs (.cached id frequency metered inner) →
    ((w₀.after before).caches id).read (w₀.after before).clock = .expired previous →
    (w₀.after before).EndsAt i inner mid (.failed f) →
    (w₀.commits id (before ++ .run i :: mid)).getLast? = some c →
    (w₀.after (before ++ .run i :: mid)).outcome? i =
      some ((Outcome.failed (.stale c.devices f)).coveredBy rs)

section
variable {w₀ : World} {before mid : List Label} {i id : Nat} {t : Task} {s inner : Source}
  {rs : List Refresh} {frequency : Duration} {metered : Bool} {previous : Option (List Device)}
  {f : Failure}

/-- **A refresh which fails is covered by what was committed when its call read the cache**, and by
    nothing if that was nothing.  That is what was committed last when it fails, if nothing was
    committed in the meantime. -/
theorem failed_refresh (hw : w₀.IsNew) (ht : (w₀.after before).tasks[i]? = some t)
    (hs : t.phase = .ready s)
    (hc : (w₀.after before).Calls s rs (.cached id frequency metered inner))
    (hr : ((w₀.after before).caches id).read (w₀.after before).clock = .expired previous)
    (hf : (w₀.after before).EndsAt i inner mid (.failed f)) :
    previous = (w₀.commits id before).getLast?.map Commit.devices ∧
    (w₀.after (before ++ .run i :: mid)).outcome? i =
      some ((Outcome.failed (f.covered previous)).coveredBy rs) ∧
    (∀ devices, (w₀.after (before ++ .run i :: mid)).outcome? i =
      some ((Outcome.failed (.stale devices f)).coveredBy rs) ↔ previous = some devices) ∧
    ((w₀.after before).commits id (.run i :: mid) = [] →
      previous = (w₀.commits id (before ++ .run i :: mid)).getLast?.map Commit.devices) := by
  have hrs := refreshes_of_isReady hw.tasks before ht (Task.isReady_iff.2 ⟨s, hs⟩)
  have hprevious := previous_of_expired hw hr
  have hends : (w₀.after (before ++ .run i :: mid)).outcome? i =
      some ((Outcome.failed (f.covered previous)).coveredBy rs) := by
    rw [after_append, after_cons]
    exact (outcome?_of_expired ht hs hrs hc hr mid).trans (by rw [hf.1]; rfl)
  refine ⟨hprevious, hends, fun devices => ?_, fun hnone => ?_⟩
  · rw [hends, Option.some_inj, (Outcome.coveredBy_injective rs).eq_iff, Outcome.failed.injEq,
      Failure.covered_eq_stale_iff]
  · rw [commits_append, hnone, List.append_nil]
    exact hprevious

end

/-! ## Two calls which cross -/

/-- A world whose script fails slowly and finds devices at once, and that twice. -/
def contested : World where
  scripts _ := { cues := [
    { delay := some (.ofMillis 100), outcome := .failed .canceled },
    { outcome := .found [{ hostname := "a" }] },
    { delay := some (.ofMillis 100), outcome := .failed .canceled },
    { outcome := .found [{ hostname := "b" }] }] }

theorem contested_isNew : contested.IsNew := ⟨rfl, fun _ => rfl, fun _ => Nat.le_refl _⟩

/-- Two calls of an empty cache: the first one fails when the second one has found devices. -/
def crossed : List Label :=
  [.call minutely, .run 0, .call minutely, .run 1, .advance (.ofMillis 100), .run 0]

/-- The same again, when what was found first has to be fetched again. -/
def crossedAgain : List Label :=
  crossed ++ [.advance (.ofSeconds 60), .call minutely, .run 2, .call minutely, .run 3,
    .advance (.ofMillis 100), .run 2]

/-- The first call has the bare failure, the third one is covered by the devices which were found
    before the last ones. -/
theorem not_coversFailures :
    ¬ contested.CoversFailures crossed 0 ∧ ¬ contested.CoversFailures crossedAgain 0 := by
  constructor
  · intro h
    have hends := h [.call minutely] [.call minutely, .run 1, .advance (.ofMillis 100), .run 0] []
      0 _ _ _ _ _ _ _ .canceled _ rfl rfl rfl (.self _) rfl ⟨rfl, Or.inr rfl⟩ rfl
    cases hends
  · intro h
    have hends := h (crossed ++ [.advance (.ofSeconds 60), .call minutely])
      [.call minutely, .run 3, .advance (.ofMillis 100), .run 2] [] 2 _ _ _ _ _ _ _ .canceled _ rfl
      rfl rfl (.self _) rfl ⟨rfl, Or.inr rfl⟩ rfl
    exact absurd (congrArg (Option.map Outcome.devices) hends) (by decide)

theorem failed_refresh_crossed :
    (none : Option (List Device)) =
      (contested.commits 0 [.call minutely]).getLast?.map Commit.devices ∧
    (contested.after crossed).outcome? 0 = some (.failed .canceled) :=
  have h := @failed_refresh contested [.call minutely]
    [.call minutely, .run 1, .advance (.ofMillis 100), .run 0] 0 0 _ _ _ _ _ _ _ .canceled
    contested_isNew rfl rfl (.self _) rfl ⟨rfl, Or.inr rfl⟩
  ⟨h.1, h.2.1⟩

end World

end TailnetTargets
