/-
  What a whole run does to a task.

  * `Task.Follows`: how a task is found later.  It keeps its scope, what waits for it, and, once it
    has called its source, the caches which wait for it; when it is over nothing changes any more
    (`follows_step`, `follows_after`);
  * `tasks_step_of_ne`: a task is changed by nothing but its own steps;
  * `entry_cases`, `exists_entry`: a task which has an outcome has called its source in one step of
    the run.
-/
import TailnetTargets.Proofs.Discovery.Change

namespace TailnetTargets

namespace Task

/-- How a task is found later. -/
structure Follows (t t' : Task) : Prop where
  scope : t'.scope = t.scope
  parent : t'.parent = t.parent
  ended : t.isOver → t' = t
  called : ¬ t.isReady → t'.refreshes = t.refreshes
  ready : t'.isReady → t' = t
  dropped : t'.phase = .dropped → t.phase = .dropped ∨ t.parent = none

theorem Follows.refl (t : Task) : t.Follows t :=
  ⟨rfl, rfl, fun _ => rfl, fun _ => rfl, fun _ => rfl, Or.inl⟩

theorem Follows.trans {t u v : Task} (h : t.Follows u) (h' : u.Follows v) : t.Follows v where
  scope := h'.scope.trans h.scope
  parent := h'.parent.trans h.parent
  ended ht := by rw [← h.ended ht]; exact h'.ended (by rw [h.ended ht]; exact ht)
  called ht := by
    rw [← h.called ht]
    exact h'.called fun hu => ht (h.ready hu ▸ hu)
  ready hv := by
    have hu := h'.ready hv
    rw [hu] at hv ⊢
    exact h.ready hv
  dropped hv := by
    rcases h'.dropped hv with hu | hu
    · exact h.dropped hu
    · exact Or.inr (h.parent ▸ hu)

theorem Follows.of_phase {t : Task} {phase : Phase} (rs : List Refresh)
    (hp : ∀ s, phase ≠ .ready s) (hover : ¬ t.isOver) (hrs : ¬ t.isReady → rs = [])
    (hdropped : phase = .dropped → t.parent = none) :
    t.Follows { t with refreshes := rs ++ t.refreshes, phase } where
  scope := rfl
  parent := rfl
  ended h := absurd h hover
  called h := by simp [hrs h]
  ready h := by
    cases phase with
    | ready s => exact absurd rfl (hp s)
    | _ => cases h
  dropped h := Or.inr (hdropped h)

end Task

namespace World

/-! ## Steps -/

theorem not_isOver_of_isBusy {t : Task} (h : t.phase.isBusy) : ¬ t.isOver := by
  unfold Task.isOver
  cases hph : t.phase <;> simp_all [Phase.isBusy]

theorem Moves.follows {w : World} {l : Label} {i : Nat} {t t' : Task} (h : Moves w l i t t') :
    t.Follows t' := by
  cases h with
  | stays => exact .refl t
  | @calls s base rs phase hl hp hc h =>
    have hready : t.isReady := Task.isReady_iff.2 ⟨s, hp⟩
    have hover : ¬ t.isOver := by simp [Task.isOver, hp]
    refine .of_phase rs ?_ hover (fun hnot => absurd hready hnot) ?_
    · rcases h with ⟨new, hw⟩ | ⟨o, -, rfl⟩
      · exact Phase.ne_ready_of_isBusy hw.isBusy
      · simp
    · rcases h with ⟨new, hw⟩ | ⟨o, -, rfl⟩
      · exact fun hd => absurd hd (Phase.ne_dropped_of_isBusy hw.isBusy)
      · simp
  | waits hl hp h =>
    exact .of_phase [] (Phase.ne_ready_of_isBusy h.isBusy) (not_isOver_of_isBusy hp) (fun _ => rfl)
      fun hd => absurd hd (Phase.ne_dropped_of_isBusy h.isBusy)
  | ends hl hp h => exact .of_phase [] (by simp) (not_isOver_of_isBusy hp) (fun _ => rfl) (by simp)
  | drops hl hover hroot => exact .of_phase [] (by simp) hover (fun _ => rfl) fun _ => hroot

theorem follows_step (w : World) (l : Label) {j : Nat} {t : Task} (ht : w.tasks[j]? = some t) :
    ∃ t', (w.step l).tasks[j]? = some t' ∧ t.Follows t' := by
  obtain ⟨t', ht', hm⟩ := moves_step l ht
  exact ⟨t', ht', hm.follows⟩

/-- A task which is begun is about to call its source, and nothing waits for it yet. -/
theorem task_new_step (w : World) (l : Label) {j : Nat} {t : Task} (hle : w.tasks.length ≤ j)
    (ht : (w.step l).tasks[j]? = some t) : t.isReady ∧ t.refreshes = [] := by
  rcases step_change w l with ⟨-, -, htasks⟩ | ⟨-, hp, hrs, -, -, htasks⟩ |
    @⟨i, ti, s, base, rs, -, hti, hp, hc, h⟩ | @⟨i, ti, -, hti, hp, h⟩ |
    @⟨i, ti, -, hti, hover, -, -, -, htasks⟩
  · rw [htasks, List.getElem?_eq_none hle] at ht
    cases ht
  · rw [htasks, List.getElem?_append_right hle] at ht
    obtain rfl := List.mem_singleton.1 (List.mem_of_getElem? ht)
    exact ⟨by simp [Task.isReady, hp], hrs⟩
  · obtain ⟨phase, new, hw, hnew⟩ := h.task_new (by rwa [pushAll_length]) ht
    cases base with
    | scripted id => simp [hw.1] at hnew
    | interface asked metered => simp [hw.1] at hnew
    | cached id frequency metered inner => cases hw
    | fanOut metered members =>
      obtain ⟨m, -, rfl⟩ := List.mem_map.1 (hw.2 ▸ List.mem_of_getElem? hnew)
      exact ⟨rfl, rfl⟩
  · obtain ⟨phase, new, hw, hnew⟩ := h.task_new hle ht
    cases hph : ti.phase with
    | calling call => rw [hph] at hw; simp [hw.1] at hnew
    | _ => rw [hph] at hw; cases hw
  · rw [htasks, List.getElem?_eq_none (by simpa using hle)] at ht
    cases ht

/-- A task is changed by nothing but its own steps. -/
theorem tasks_step_of_ne (w : World) {l : Label} {j : Nat} (hlt : j < w.tasks.length)
    (hrun : l ≠ .run j) (hreply : ∀ r, l ≠ .reply j r) (hdrop : l ≠ .drop j) :
    (w.step l).tasks[j]? = w.tasks[j]? := by
  have hown : ¬ (l = .run j ∨ ∃ r, l = .reply j r) := by
    rintro (h | ⟨r, h⟩)
    · exact hrun h
    · exact hreply r h
  obtain ⟨t', ht', hm⟩ := moves_step l (List.getElem?_eq_getElem hlt)
  rw [ht', List.getElem?_eq_getElem hlt]
  cases hm with
  | stays => rfl
  | calls hl => exact absurd hl hrun
  | waits hl => exact absurd hl hown
  | ends hl => exact absurd hl hown
  | drops hl => exact absurd hl hdrop

theorem length_le_step (w : World) (l : Label) : w.tasks.length ≤ (w.step l).tasks.length := by
  by_cases h : w.tasks.length = 0
  · omega
  · have hlt : w.tasks.length - 1 < w.tasks.length := by omega
    obtain ⟨t', ht', -⟩ := follows_step w l (List.getElem?_eq_getElem hlt)
    have := (List.getElem?_eq_some_iff.1 ht').1
    omega

theorem clock_le_step (w : World) (l : Label) : w.clock ≤ (w.step l).clock := by
  rcases step_change w l with ⟨hclock, -, -⟩ | ⟨-, -, -, hclock, -, -⟩ | ⟨-, -, -, -, h⟩ |
    ⟨-, -, -, h⟩ | ⟨-, -, -, -, hclock, -, -⟩
  · exact hclock
  · rw [hclock]; exact Nat.le_refl _
  · rw [h.clock]; exact Nat.le_refl _
  · rw [h.clock]; exact Nat.le_refl _
  · rw [hclock]; exact Nat.le_refl _

/-- A task which is about to call its source does so in a step of its own, or it is dropped. -/
theorem step_of_isReady {w : World} {l : Label} {i : Nat} {t : Task} (ht : w.tasks[i]? = some t)
    (hr : t.isReady) (hl : l ≠ .run i) :
    (w.step l).tasks[i]? = some t ∨
      (w.step l).tasks[i]? = some { t with phase := .dropped } := by
  obtain ⟨s, hs⟩ := Task.isReady_iff.1 hr
  obtain ⟨t', ht', hm⟩ := moves_step l ht
  cases hm with
  | stays => exact Or.inl ht'
  | calls hrun => exact absurd hrun hl
  | waits _ hp => rw [hs] at hp; cases hp
  | ends _ hp => rw [hs] at hp; cases hp
  | drops => exact Or.inr ht'

/-! ## Runs -/

theorem after_cons (w : World) (l : Label) (labels : List Label) :
    w.after (l :: labels) = (w.step l).after labels := rfl

theorem after_append (w : World) (first second : List Label) :
    w.after (first ++ second) = (w.after first).after second := List.foldl_append

theorem after_snoc (w : World) (labels : List Label) (l : Label) :
    w.after (labels ++ [l]) = (w.after labels).step l := after_append ..

theorem follows_after (w : World) (labels : List Label) {j : Nat} {t : Task}
    (ht : w.tasks[j]? = some t) : ∃ t', (w.after labels).tasks[j]? = some t' ∧ t.Follows t' := by
  induction labels generalizing w t with
  | nil => exact ⟨t, ht, .refl t⟩
  | cons l labels ih =>
    obtain ⟨u, hu, htu⟩ := follows_step w l ht
    obtain ⟨v, hv, huv⟩ := ih (w.step l) hu
    exact ⟨v, hv, htu.trans huv⟩

theorem length_le_after (w : World) (labels : List Label) :
    w.tasks.length ≤ (w.after labels).tasks.length := by
  induction labels generalizing w with
  | nil => exact Nat.le_refl _
  | cons l labels ih => exact Nat.le_trans (length_le_step w l) (ih _)

theorem cues_after (w : World) (labels : List Label) (id : Nat) :
    ((w.after labels).scripts id).cues = (w.scripts id).cues := by
  induction labels generalizing w with
  | nil => rfl
  | cons l labels ih => exact (ih (w.step l)).trans (cues_step w l id)

theorem task_after_of_isOver {w : World} {i : Nat} {t : Task} (ht : w.tasks[i]? = some t)
    (hover : t.isOver) (labels : List Label) : (w.after labels).tasks[i]? = some t := by
  obtain ⟨t', ht', hf⟩ := follows_after w labels ht
  rw [ht', hf.ended hover]

theorem isOver_of_outcome? {t : Task} {o : Outcome} (h : t.outcome? = some o) : t.isOver := by
  unfold Task.outcome? at h
  unfold Task.isOver
  split at h <;> simp_all

theorem outcome?_after {w : World} {i : Nat} {o : Outcome} (labels : List Label)
    (h : w.outcome? i = some o) : (w.after labels).outcome? i = some o := by
  obtain ⟨t, ht, ho⟩ := Option.bind_eq_some_iff.1 h
  exact Option.bind_eq_some_iff.2
    ⟨t, task_after_of_isOver ht (isOver_of_outcome? ho) labels, ho⟩

/-- A task is dropped only by a step which says so. -/
theorem not_dropped_of_runs {w : World} {more : List Label} (hruns : ∀ l ∈ more, ∃ k, l = .run k)
    {i : Nat} (hlt : i < w.tasks.length)
    (hnot : ∀ t, w.tasks[i]? = some t → t.phase ≠ .dropped) :
    ∀ t, (w.after more).tasks[i]? = some t → t.phase ≠ .dropped := by
  induction more generalizing w with
  | nil => exact hnot
  | cons l more ih =>
    refine ih (fun l hl => hruns l (List.mem_cons_of_mem _ hl))
      (Nat.lt_of_lt_of_le hlt (length_le_step w l)) fun t ht => ?_
    obtain ⟨k, rfl⟩ := hruns l (List.mem_cons_self ..)
    have hu := List.getElem?_eq_getElem hlt
    obtain ⟨t', ht', hm⟩ := moves_step (.run k) hu
    obtain rfl := Option.some.inj (ht.symm.trans ht')
    cases hm with
    | stays => exact hnot _ hu
    | calls _ _ _ h =>
      rcases h with ⟨new, h⟩ | ⟨o, -, rfl⟩
      · exact Phase.ne_dropped_of_isBusy h.isBusy
      · simp
    | waits _ _ h => exact Phase.ne_dropped_of_isBusy h.isBusy
    | ends => simp
    | drops hl => cases hl

/-- A task which is about to call its source still is so later, or it was dropped, or it has called
    its source in one of the steps. -/
theorem entry_cases {w : World} {i : Nat} {t : Task} (ht : w.tasks[i]? = some t) (hr : t.isReady)
    (labels : List Label) :
    (w.after labels).tasks[i]? = some t ∨
      (w.after labels).tasks[i]? = some { t with phase := .dropped } ∨
      ∃ before rest, labels = before ++ .run i :: rest ∧ (w.after before).tasks[i]? = some t := by
  induction labels generalizing w with
  | nil => exact Or.inl ht
  | cons l labels ih =>
    by_cases hl : l = .run i
    · exact Or.inr (Or.inr ⟨[], labels, by rw [hl]; rfl, ht⟩)
    · rcases step_of_isReady ht hr hl with h | h
      · rcases ih h with h' | h' | ⟨before, rest, rfl, hb⟩
        · exact Or.inl h'
        · exact Or.inr (Or.inl h')
        · exact Or.inr (Or.inr ⟨l :: before, rest, rfl, hb⟩)
      · exact Or.inr (Or.inl (task_after_of_isOver h rfl labels))

/-- A task which is about to call its source and ends later has called it in one of the steps. -/
theorem exists_entry {w : World} {labels : List Label} {i : Nat} {t : Task} {o : Outcome}
    (ht : w.tasks[i]? = some t) (hr : t.isReady) (ho : (w.after labels).outcome? i = some o) :
    ∃ before rest, labels = before ++ .run i :: rest ∧ (w.after before).tasks[i]? = some t := by
  rcases entry_cases ht hr labels with h | h | h
  · obtain ⟨s, hs⟩ := Task.isReady_iff.1 hr
    simp [outcome?, h, Task.outcome?, hs] at ho
  · simp [outcome?, h, Task.outcome?] at ho
  · exact h

end World

end TailnetTargets
