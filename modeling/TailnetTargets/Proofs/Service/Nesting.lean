/-
  Joint sources which are members of joint sources, as visitors see them.

  * `response_of_alike`: outcomes which cannot be told apart are answered alike;
  * `nesting_transparent`: a tree of joint sources and a single one over the same leaves end alike,
    and are answered alike, when their leaves do;
  * `twofold`: a tree with a panicking leaf and a joint source without members.
-/
import TailnetTargets.Proofs.Discovery.Nest
import TailnetTargets.Service

namespace TailnetTargets

theorem Service.response_of_alike {s s' : Service} (hs : s.filters = s'.filters) {o o' : Outcome}
    (h : o.Alike o') : s.targetsResponse o = s'.targetsResponse o' := by
  cases h with
  | found devices => simp only [targetsResponse, devicesResponse, hs]
  | failed hdevices hstale hmessage =>
    simp only [targetsResponse, devicesResponse, failureResponse, hs, hdevices, hstale, hmessage]

namespace World

/-- **Nesting joint sources makes no difference.**  When the leaves of a tree have ended, and those
    of a single joint source over the same leaves have ended alike, both calls end; and they end with
    the same devices, or with failures which have the same devices and the same text and are both
    stale or both not.  So visitors are answered alike. -/
theorem nesting_transparent {w₀ v₀ : World} (hw : w₀.tasks = []) (hv : v₀.tasks = [])
    {metered metered' : Bool} {members : List Nest} {labels labels' : List Label} {i j : Nat}
    {os : List Outcome} (hi : w₀.Begun labels i (Nest.node metered members).source)
    (hj : v₀.Begun labels' j (.fanOut metered' (Nest.node metered members).leaves))
    (hi' : ∀ t, (w₀.after labels).tasks[i]? = some t → t.phase ≠ .dropped)
    (hj' : ∀ t, (v₀.after labels').tasks[j]? = some t → t.phase ≠ .dropped)
    (hos : (w₀.after labels).leafOutcomes? (.node metered members) i = some os)
    (hos' : (v₀.after labels').leafOutcomes? ((Nest.node metered members).flat metered') j =
      some os) :
    (∃ more more', (∀ l ∈ more ++ more', ∃ k, l = .run k) ∧ ∃ o o',
      (w₀.after (labels ++ more)).outcome? i = some o ∧
      (v₀.after (labels' ++ more')).outcome? j = some o') ∧
    ∀ more more' o o', (w₀.after (labels ++ more)).outcome? i = some o →
      (v₀.after (labels' ++ more')).outcome? j = some o' →
      Outcome.Alike o o' ∧ ∀ filters : List Filter,
        (Service.ofSource (Nest.node metered members).source filters).targetsResponse o =
          (Service.ofSource (.fanOut metered' (Nest.node metered members).leaves)
            filters).targetsResponse o' := by
  rw [← Nest.source_flat] at hj
  constructor
  · obtain ⟨more, hruns, o, ho⟩ := endsWithLeaves hw _ labels i os hi hi' hos
    obtain ⟨more', hruns', o', ho'⟩ := endsWithLeaves hv _ labels' j os hj hj' hos'
    refine ⟨more, more', fun l hl => ?_, o, o', ho, ho'⟩
    exact (List.mem_append.1 hl).elim (hruns l) (hruns' l)
  · intro more more' o o' ho ho'
    obtain ⟨rs, hrs, hsums⟩ := exists_sums hw _ (hi.append more) ho
    obtain ⟨rs', hrs', hsums'⟩ := exists_sums hv _ (hj.append more') ho'
    -- the leaves have ended before, and their outcomes are still the same
    rw [after_append, leafOutcomes?_after more _ hos] at hrs
    rw [after_append, leafOutcomes?_after more' _ hos'] at hrs'
    cases hrs
    cases hrs'
    obtain ⟨_, _, _, slots, -, -, -, -, -, rfl⟩ := exists_slots_of_node hw (hi.append more) ho
    obtain ⟨_, _, _, slots', -, -, -, -, -, rfl⟩ := exists_slots_of_node hv (hj.append more') ho'
    have halike := hsums.alike hsums' (Outcome.merge_ne_panicked slots)
      (Outcome.merge_ne_panicked slots')
    exact ⟨halike, fun filters => Service.response_of_alike rfl halike⟩

/-! ## Two scripts, one of them a level below -/

/-- Two scripts, the first one of which stands beside a joint source without members. -/
def twofold : Nest :=
  .node false [.node false [.leaf (.scripted 0), .node false []], .leaf (.scripted 1)]

/-- A call of these, up to the end of the scripts. -/
def stepped : List Label := [.call twofold.source, .run 0, .run 1, .run 3, .run 2]

/-- A call of the scripts without the levels, up to their end. -/
def level : List Label := [.call both, .run 0, .run 2, .run 1]

theorem nesting_transparent_twofold :
    ∃ more more' o o', (mixed.after (stepped ++ more)).outcome? 0 = some o ∧
      (mixed.after (level ++ more')).outcome? 0 = some o' ∧ Outcome.Alike o o' ∧
      ∀ filters, (Service.ofSource twofold.source filters).targetsResponse o =
        (Service.ofSource both filters).targetsResponse o' := by
  have hi : mixed.Begun stepped 0 twofold.source :=
    ⟨[.call twofold.source], stepped.tail, { scope := .ofCall 0, phase := .ready twofold.source },
      rfl, rfl, rfl⟩
  have hj : mixed.Begun level 0 both :=
    ⟨[.call both], level.tail, { scope := .ofCall 0, phase := .ready both }, rfl, rfl, rfl⟩
  have hi' : ∀ t, (mixed.after stepped).tasks[0]? = some t → t.phase ≠ .dropped := by
    rintro t ⟨⟩ h
    cases h
  have hj' : ∀ t, (mixed.after level).tasks[0]? = some t → t.phase ≠ .dropped := by
    rintro t ⟨⟩ h
    cases h
  obtain ⟨⟨more, more', -, o, o', ho, ho'⟩, halike⟩ :=
    nesting_transparent rfl rfl hi hj hi' hj' rfl rfl
  exact ⟨more, more', o, o', ho, ho', halike more more' o o' ho ho'⟩

end World

end TailnetTargets
