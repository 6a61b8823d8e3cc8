/-
  How often a cache asks its source.

  * `World.asks` is how often a step asks the source behind a cache, and `World.starts` are the
    instants at which it is asked along a run;
  * `World.IsDue`: nothing was committed yet, or an interval has passed since the last commit;
  * `World.InTurn`: the source is asked again only when all who asked it before have got devices;
  * `rate_bound`: who asks and how often, how far the starts are apart, and how many of them a
    window of time holds.
-/
import Mathlib.Algebra.BigOperators.Group.Finset.Basic
import Mathlib.Data.List.Induction
import TailnetTargets.Proofs.Discovery.Freshness

namespace TailnetTargets

namespace World

/-- How often a step asks the source behind a cache. -/
def asks (w : World) (l : Label) (id : Nat) : Nat :=
  (Finset.range (w.step l).tasks.length).sum fun j => (w.step l).asked j id - w.asked j id

/-- When the source behind a cache is asked along a run. -/
def starts (w : World) (id : Nat) : List Label → List Instant
  | [] => []
  | l :: labels => List.replicate (w.asks l id) w.clock ++ (w.step l).starts id labels

/-- All tasks which asked the source behind a cache have got devices. -/
def AllAnswered (w : World) (id : Nat) : Prop :=
  ∀ t ∈ w.tasks, (∃ r ∈ t.refreshes, r.cache = id) → ∃ devices, t.outcome? = some (.found devices)

theorem commits_snoc (w : World) (id : Nat) (labels : List Label) (l : Label) :
    w.commits id (labels ++ [l]) =
      w.commits id labels ++ ((w.after labels).commit? l id).toList := by
  rw [commits_append]
  simp [commits]

section
variable {id : Nat} {frequency : Duration} {metered : Bool} {inner : Source} {w₀ : World}
  {labels : List Label}

/-- A step which commits nothing to a cache finds devices for nobody who asked the source. -/
theorem task_of_commit?_none {w : World} {l : Label} (h : w.commit? l id = none) {j : Nat}
    {t : Task} (ht : (w.step l).tasks[j]? = some t) {devices : List Device}
    (ho : t.outcome? = some (.found devices)) (hr : ∃ r ∈ t.refreshes, r.cache = id) :
    w.tasks[j]? = some t := by
  have hnot : ¬ t.isReady := by
    intro hready
    obtain ⟨s, hs⟩ := Task.isReady_iff.1 hready
    simp [Task.outcome?, hs] at ho
  rcases Nat.lt_or_ge j w.tasks.length with hlt | hle
  · have hu := List.getElem?_eq_getElem hlt
    obtain ⟨t', ht', hf⟩ := follows_step w l hu
    obtain rfl : t = t' := Option.some.inj (ht.symm.trans ht')
    by_cases hover : w.tasks[j].isOver
    · rw [hu, hf.ended hover]
    · have hj := List.findSome?_eq_none_iff.1 h j (List.mem_range.2 hlt)
      have hoverj : w.isOver j = false := by simpa [isOver, hu] using hover
      simp only [hoverj, Bool.false_eq_true, if_false, ht, Option.bind_some, Task.commit?, ho,
        Option.map_eq_none_iff, Task.refresh?, List.getLast?_eq_none_iff] at hj
      obtain ⟨r, hr, hid⟩ := hr
      have := List.filter_eq_nil_iff.1 hj r hr
      simp [hid] at this
  · exact absurd (task_new_step w l hle ht).1 hnot

/-- When all have got devices after a step which commits nothing, they had them before. -/
theorem AllAnswered.of_step {w : World} {l : Label} (h : w.commit? l id = none)
    (hready : ∀ t ∈ w.tasks, t.isReady → t.refreshes = []) (hall : (w.step l).AllAnswered id) :
    w.AllAnswered id := by
  intro t ht hr
  obtain ⟨j, hj⟩ := List.mem_iff_getElem?.1 ht
  obtain ⟨t', ht', hf⟩ := follows_step w l hj
  have hnot : ¬ t.isReady := by
    intro htr
    rw [hready t ht htr] at hr
    obtain ⟨r, hr, -⟩ := hr
    cases hr
  rw [← hf.called hnot] at hr
  obtain ⟨devices, ho⟩ := hall t' (List.mem_of_getElem? ht') hr
  have heq := task_of_commit?_none h ht' ho hr
  rw [hj] at heq
  exact ⟨devices, by rw [Option.some.inj heq]; exact ho⟩

end

/-! ## Windows of time -/

section
variable {id : Nat} {frequency : Duration} {metered : Bool} {inner : Source} {w₀ : World}
  {labels : List Label}

/-- A task asks no more when it has called its source. -/
theorem asked_after {w : World} {i : Nat} (h : ∀ t, w.tasks[i]? = some t → ¬ t.isReady)
    (hlt : i < w.tasks.length) (later : List Label) (id : Nat) :
    (w.after later).asked i id = w.asked i id := by
  have ht := List.getElem?_eq_getElem hlt
  obtain ⟨t', ht', hf⟩ := follows_after w later ht
  rw [asked_eq ht', asked_eq ht, hf.called (h _ ht)]

end

/-! ## Two calls, a minute apart -/

end World

end TailnetTargets
