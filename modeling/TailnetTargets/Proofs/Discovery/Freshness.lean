/-
  What a cache answers without its source.

  * `kept_of_not_asked`: the devices which were committed last, and that less than an interval ago;
  * `peopled` and `calls`: a run in which a second call finds the devices of a first one.
-/
import TailnetTargets.Proofs.Discovery.Entry

namespace TailnetTargets

namespace World

/-- **A cache which does not ask its source answers with the devices which were committed last.**
    The commit is not older than the interval, so that nothing is answered before a first one. -/
theorem kept_of_not_asked {w₀ : World} (hw : w₀.IsNew) {labels : List Label} {id : Nat}
    {frequency : Duration} {metered : Bool} {inner : Source}
    (hone : OneCache labels id (.cached id frequency metered inner)) {i : Nat} {t : Task}
    {s : Source} {rs : List Refresh} (ht : (w₀.after labels).tasks[i]? = some t)
    (hs : t.phase = .ready s)
    (hc : (w₀.after labels).Calls s rs (.cached id frequency metered inner))
    (hnot : ((w₀.after labels).run i).asked i id = 0) :
    ∃ c, (w₀.commits id labels).getLast? = some c ∧
      (w₀.after labels).clock < c.time.advance (Cache.interval c.time frequency) ∧
      ∀ later, (((w₀.after labels).run i).after later).outcome? i = some (.found c.devices) := by
  have hnow := hw.hasOnly.after hone
  have hrs := refreshes_of_isReady hw.tasks labels ht (Task.isReady_iff.2 ⟨s, hs⟩)
  have hread := read_after hw labels id
  cases hlast : (w₀.commits id labels).getLast? with
  | none =>
    rw [hlast] at hread
    have := asked_of_expired hnow ht hs hrs hc hread
    omega
  | some c =>
    have hfreq : c.frequency = frequency :=
      hw.hasOnly.frequency_of_mem_commits hone (List.mem_of_getLast? hlast)
    simp only [hlast] at hread
    split at hread
    · next hlt =>
      rw [Commit.deadline, hfreq] at hlt
      refine ⟨c, rfl, hlt, fun later => outcome?_after later ?_⟩
      rw [outcome?, run_of_fresh ht hs hc hread]
      rfl
    · have := asked_of_expired hnow ht hs hrs hc hread
      omega

/-! ## A second call -/

/-- A source behind a cache which is asked once in a minute at most. -/
def minutely : Source := .cached 0 (.ofSeconds 60) false (.scripted 0)

/-- A world whose first scripted source finds a device. -/
def peopled : World where
  scripts _ := { cues := [{ outcome := .found [{ hostname := "a" }] }] }

theorem peopled_isNew : peopled.IsNew := ⟨rfl, fun _ => rfl, fun _ => Nat.le_refl _⟩

theorem minutely_hasOnly : minutely.HasOnly 0 minutely := by
  intro frequency metered inner h
  cases h with
  | self => rfl
  | behind h => cases h

theorem oneCache_minutely {labels : List Label}
    (h : ∀ l ∈ labels, ∀ s, l.source? = some s → s = minutely) : OneCache labels 0 minutely := by
  intro l hl s hs
  rw [h l hl s hs]
  exact minutely_hasOnly

/-- Two calls, the second one of which has not read the cache yet. -/
def calls : List Label := [.call minutely, .run 0, .call minutely]

theorem kept_of_not_asked_second_call :
    ∃ c, (peopled.commits 0 calls).getLast? = some c ∧
      (peopled.after calls).clock < c.time.advance (Cache.interval c.time (.ofSeconds 60)) ∧
      ∀ later, (((peopled.after calls).run 1).after later).outcome? 1 = some (.found c.devices) :=
  kept_of_not_asked peopled_isNew (oneCache_minutely (by simp [calls, Label.source?])) rfl rfl
    (.self _) rfl

end World

end TailnetTargets
