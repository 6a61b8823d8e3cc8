/-
  Tasks and those which were begun for them.

  * `begun_step`: a task which a step begins is called from outside, or it is called for the task
    whose step it is, and calls a member of the source to which that comes;
  * `World.IsForest`: whoever was begun for a task came after it, when it had called its source.
    Every run keeps it so (`IsForest.after`);
  * `World.Beneath`: a task and all that were begun for it, and for these;
  * `apart_after`: what is begun beneath a task which asks the source behind a cache never comes to
    that cache.
-/
import TailnetTargets.Proofs.Discovery.Entry

namespace TailnetTargets

namespace World

/-! ## Beginning tasks -/

theorem begun_step (w : World) (l : Label) {j : Nat} {t : Task} (hle : w.tasks.length ≤ j)
    (ht : (w.step l).tasks[j]? = some t) :
    (t.parent = none ∧ ∃ s, l.source? = some s) ∨
      ∃ (i : Nat) (ti : Task) (s : Source) (rs : List Refresh) (metered : Bool)
        (members : List Source) (m : Source), l = .run i ∧ w.tasks[i]? = some ti ∧
        ti.phase = .ready s ∧ w.Calls s rs (.fanOut metered members) ∧
        members[j - w.tasks.length]? = some m ∧
        t = { scope := ti.scope.within i, parent := some i, phase := .ready m } := by
  -- a call from outside is begun by its label, all others by the turn of a task
  have houtside : ∀ s scope, t ∈ [({ scope, phase := .ready s } : Task)] → t.parent = none := by
    intro s scope h
    rw [List.mem_singleton.1 h]
  cases hl : l.source? with
  | some s =>
    refine Or.inl ⟨?_, s, rfl⟩
    cases l with
    | call s =>
      rw [step, begin, List.getElem?_append_right hle] at ht
      exact houtside _ _ (List.mem_of_getElem? ht)
    | serve s =>
      rw [step, begin, List.getElem?_append_right hle] at ht
      exact houtside _ _ (List.mem_of_getElem? ht)
    | _ => cases hl
  | none =>
    right
    rcases step_change w l with ⟨-, -, htasks⟩ | ⟨hs, -⟩ |
      @⟨i, ti, s, base, rs, hrun, hti, hp, hc, h⟩ | @⟨i, ti, -, hti, hp, h⟩ |
      @⟨i, ti, -, hti, hover, -, -, -, htasks⟩
    · rw [htasks, List.getElem?_eq_none hle] at ht
      cases ht
    · rw [hl] at hs
      cases hs
    · obtain ⟨phase, new, hw, hnew⟩ := h.task_new (by rwa [pushAll_length]) ht
      rw [pushAll_length] at hnew
      cases base with
      | scripted id => simp [hw.1] at hnew
      | interface asked metered => simp [hw.1] at hnew
      | cached id frequency metered inner => cases hw
      | fanOut metered members =>
        rw [hw.2, memberTasks, List.getElem?_map, Option.map_eq_some_iff] at hnew
        obtain ⟨m, hm, rfl⟩ := hnew
        exact ⟨i, ti, s, rs, metered, members, m, hrun, hti, hp, hc, hm, rfl⟩
    · obtain ⟨phase, new, hw, hnew⟩ := h.task_new hle ht
      cases hph : ti.phase with
      | calling call => rw [hph] at hw; simp [hw.1] at hnew
      | _ => rw [hph] at hw; cases hw
    · rw [htasks, List.getElem?_eq_none (by simpa using hle)] at ht
      cases ht

/-- Whoever was begun for a task came after it, when it had called its source. -/
structure IsForest (w : World) : Prop where
  lt : ∀ (j p : Nat) (t : Task), w.tasks[j]? = some t → t.parent = some p → p < j
  called : ∀ (j p : Nat) (t tp : Task), w.tasks[j]? = some t → t.parent = some p →
    w.tasks[p]? = some tp → ¬ tp.isReady

theorem isForest_of_tasks {w : World} (hw : w.tasks = []) : w.IsForest where
  lt j p t ht := by rw [hw] at ht; cases ht
  called j p t tp ht := by rw [hw] at ht; cases ht

/-- A task which was there before a step has the same parent after it. -/
theorem task_of_step {w : World} {l : Label} {j : Nat} {t : Task} (hlt : j < w.tasks.length)
    (ht : (w.step l).tasks[j]? = some t) : ∃ u, w.tasks[j]? = some u ∧ u.Follows t := by
  have hu := List.getElem?_eq_getElem hlt
  obtain ⟨t', ht', hf⟩ := follows_step w l hu
  obtain rfl := Option.some.inj (ht.symm.trans ht')
  exact ⟨_, hu, hf⟩

theorem IsForest.step {w : World} (hw : w.IsForest) (l : Label) : (w.step l).IsForest := by
  have hold : ∀ (p : Nat) (tp : Task), p < w.tasks.length → (w.step l).tasks[p]? = some tp →
      (∀ u, w.tasks[p]? = some u → ¬ u.isReady) → ¬ tp.isReady := by
    intro p tp hp htp h hready
    obtain ⟨u, hu, hf⟩ := task_of_step hp htp
    rw [hf.ready hready] at hready
    exact h u hu hready
  constructor
  · intro j p t ht hp
    rcases Nat.lt_or_ge j w.tasks.length with hlt | hle
    · obtain ⟨u, hu, hf⟩ := task_of_step hlt ht
      exact hw.lt j p u hu (hf.parent ▸ hp)
    · rcases begun_step w l hle ht with ⟨hroot, -⟩ | ⟨i, ti, s, rs, metered, members, m, -, hti, h⟩
      · rw [hp] at hroot
        cases hroot
      · obtain ⟨-, -, -, rfl⟩ := h
        cases hp
        exact Nat.lt_of_lt_of_le (List.getElem?_eq_some_iff.1 hti).1 hle
  · intro j p t tp ht hp htp
    rcases Nat.lt_or_ge j w.tasks.length with hlt | hle
    · obtain ⟨u, hu, hf⟩ := task_of_step hlt ht
      have hup : u.parent = some p := hf.parent ▸ hp
      refine hold p tp (Nat.lt_trans (hw.lt j p u hu hup) hlt) htp fun v hv => ?_
      exact hw.called j p u v hu hup hv
    · rcases begun_step w l hle ht with ⟨hroot, -⟩ |
        ⟨i, ti, s, rs, metered, members, m, rfl, hti, -, -, -, rfl⟩
      · rw [hp] at hroot
        cases hroot
      · cases hp
        exact not_isReady_of_run hti htp

theorem IsForest.after {w : World} (hw : w.IsForest) (labels : List Label) :
    (w.after labels).IsForest := by
  induction labels generalizing w with
  | nil => exact hw
  | cons l labels ih => exact ih (hw.step l)

/-! ## Beneath a task -/

/-- A task and all that were begun for it, and for these. -/
inductive Beneath (w : World) (i : Nat) : Nat → Prop where
  | self : Beneath w i i
  | child {j k : Nat} {t : Task} (ht : w.tasks[k]? = some t) (hp : t.parent = some j)
      (h : Beneath w i j) : Beneath w i k

section
variable {w : World} {i j : Nat}

theorem Beneath.of_step {l : Label} (hw : w.IsForest) (h : (w.step l).Beneath i j)
    (hlt : j < w.tasks.length) : w.Beneath i j := by
  induction h with
  | self => exact .self
  | @child j k t ht hp _ ih =>
    obtain ⟨u, hu, hf⟩ := task_of_step hlt ht
    have hup : u.parent = some j := hf.parent ▸ hp
    exact .child hu hup (ih (Nat.lt_trans (hw.lt k j u hu hup) hlt))

theorem Beneath.step (h : w.Beneath i j) (l : Label) : (w.step l).Beneath i j := by
  induction h with
  | self => exact .self
  | child ht hp _ ih =>
    obtain ⟨u, hu, hf⟩ := follows_step w l ht
    exact .child hu (hf.parent.trans hp) ih

/-- Nothing is beneath a task which is about to call its source. -/
theorem Beneath.eq_of_isReady (hw : w.IsForest) (h : w.Beneath i j) {t : Task}
    (ht : w.tasks[i]? = some t) (hr : t.isReady) : j = i := by
  induction h with
  | self => rfl
  | @child j k u hu hp _ ih =>
    rw [ih] at hp
    exact absurd hr (hw.called k i u t hu hp ht)

end

end World

/-! ## Tasks which never come to a cache -/

/-- No cache of a number waits for a task, and none is part of what it is about to call. -/
structure Task.Avoids (t : Task) (id : Nat) : Prop where
  ready : ∀ s, t.phase = .ready s → ∀ frequency metered inner,
    ¬ (Source.cached id frequency metered inner).Within s
  refreshes : ∀ r ∈ t.refreshes, r.cache ≠ id

namespace World

section
variable {w : World} {i : Nat} {id : Nat}

theorem Moves.avoids {l : Label} {t t' : Task} (h : Moves w l i t t') (ht : t.Avoids id) :
    t'.Avoids id := by
  cases h with
  | stays => exact ht
  | @calls s base rs phase hl hp hc h =>
    constructor
    · intro s' hs'
      rcases h with ⟨new, hw⟩ | ⟨o, -, rfl⟩
      · exact absurd hs' (Phase.ne_ready_of_isBusy hw.isBusy s')
      · cases hs'
    · intro r hr hid
      rcases List.mem_append.1 hr with hr | hr
      · obtain ⟨-, inner, hw, -⟩ := hc.of_mem hr
        rw [hid] at hw
        exact ht.ready s hp _ _ _ hw
      · exact ht.refreshes r hr hid
  | waits hl hp h =>
    exact ⟨fun s hs => absurd hs (Phase.ne_ready_of_isBusy h.isBusy s), ht.refreshes⟩
  | ends => exact ⟨fun s hs => (by cases hs), ht.refreshes⟩
  | drops => exact ⟨fun s hs => (by cases hs), ht.refreshes⟩

/-- All tasks beneath a task never come to a cache. -/
def ApartBelow (w : World) (i id : Nat) : Prop :=
  ∀ (j : Nat) (t : Task), j ≠ i → w.Beneath i j → w.tasks[j]? = some t → t.Avoids id

theorem ApartBelow.step (h : w.ApartBelow i id) (hw : w.IsForest)
    (hi : ∀ t, w.tasks[i]? = some t → ¬ t.isReady) (l : Label) : (w.step l).ApartBelow i id := by
  intro j t hji hj ht
  rcases Nat.lt_or_ge j w.tasks.length with hlt | hle
  · obtain ⟨t', ht', hm⟩ := moves_step l (List.getElem?_eq_getElem hlt)
    obtain rfl := Option.some.inj (ht.symm.trans ht')
    exact hm.avoids (h j _ hji (hj.of_step hw hlt) (List.getElem?_eq_getElem hlt))
  · cases hj with
    | self => exact absurd rfl hji
    | @child p _ t' ht' hp hbelow =>
      obtain rfl := Option.some.inj (ht.symm.trans ht')
      rcases begun_step w l hle ht with ⟨hroot, -⟩ |
        ⟨q, tq, s, rs, metered, members, m, rfl, htq, hs, hc, hm, rfl⟩
      · rw [hp] at hroot
        cases hroot
      · cases hp
        have hplt : p < w.tasks.length := (List.getElem?_eq_some_iff.1 htq).1
        have hpi : p ≠ i := by
          rintro rfl
          exact hi tq htq (Task.isReady_iff.2 ⟨s, hs⟩)
        have havoids := h p tq hpi (hbelow.of_step hw hplt) htq
        refine ⟨fun s' hs' frequency metered inner hin => ?_, fun r hr => (by cases hr)⟩
        cases hs'
        exact havoids.ready s hs _ _ _
          ((hin.trans (.member (List.mem_of_getElem? hm) .self)).trans hc.within)

theorem ApartBelow.after (h : w.ApartBelow i id) (hw : w.IsForest)
    (hi : ∀ t, w.tasks[i]? = some t → ¬ t.isReady) (hlt : i < w.tasks.length)
    (labels : List Label) : (w.after labels).ApartBelow i id := by
  induction labels generalizing w with
  | nil => exact h
  | cons l labels ih =>
    refine ih (h.step hw hi l) (hw.step l) (fun t ht hr => ?_)
      (Nat.lt_of_lt_of_le hlt (length_le_step w l))
    obtain ⟨u, hu, hf⟩ := task_of_step hlt ht
    rw [hf.ready hr] at hr
    exact hi u hu hr

/-- What is begun beneath a task which asks the source behind a cache never comes to that cache. -/
theorem apart_after {frequency : Duration} {metered : Bool} {inner s : Source} {rs : List Refresh}
    {previous : Option (List Device)} {t : Task} (hw : w.IsForest)
    (hone : w.HasOnly id frequency metered inner) (ht : w.tasks[i]? = some t)
    (hs : t.phase = .ready s) (hc : w.Calls s rs (.cached id frequency metered inner))
    (hr : (w.caches id).read w.clock = .expired previous) (labels : List Label) :
    ((w.run i).after labels).ApartBelow i id := by
  have hforest : (w.run i).IsForest := hw.step (.run i)
  have hready : t.isReady := Task.isReady_iff.2 ⟨s, hs⟩
  have hlt : i < w.tasks.length := (List.getElem?_eq_some_iff.1 ht).1
  refine ApartBelow.after (fun j u hji hj hu => ?_) hforest (fun u hu => not_isReady_of_run ht hu)
    (Nat.lt_of_lt_of_le hlt (length_le_step w (.run i))) labels
  rcases Nat.lt_or_ge j w.tasks.length with hjlt | hle
  · exact absurd ((hj.of_step hw (l := .run i) hjlt).eq_of_isReady hw ht hready) hji
  · -- what the step begins are members of a source behind the cache
    obtain ⟨rs', base, hb, hturn⟩ := run_of_expired ht hs hc hr
    obtain ⟨phase, new, hwaits, hnew⟩ := hturn.task_new (by rwa [pushAll_length]) hu
    cases base with
    | scripted id => simp [hwaits.1] at hnew
    | interface asked metered => simp [hwaits.1] at hnew
    | cached id frequency metered inner => cases hwaits
    | fanOut metered members =>
      obtain ⟨m, hm, rfl⟩ := List.mem_map.1 (hwaits.2 ▸ List.mem_of_getElem? hnew)
      have hinner := (hone.ready i t s ht hs).of_within (.trans (.behind .self) hc.within)
      refine ⟨fun s' hs' frequency' metered' inner' hin => ?_, fun r hr => (by cases hr)⟩
      cases hs'
      exact hinner.not_within ((hin.trans (.member hm .self)).trans hb.within)

end

end World

end TailnetTargets
