/-
  How a task calls its source.

  * `Source.Within`: a source which is part of another one;
  * `Source.HasOnly`: all caches of a number are one and the same, and `World.HasOnly` the same for
    what tasks are about to call and for the caches which wait for them;
  * `run_of_fresh` and `run_of_expired`: what a task does which comes to a cache;
  * `frequency_of_mem_commits`: one cache has one frequency.
-/
import TailnetTargets.Proofs.Discovery.Commit

namespace TailnetTargets

namespace Source

/-- A source and the sources of which it is made. -/
inductive Within (part : Source) : Source → Prop where
  | self : Within part part
  | behind {id : Nat} {frequency : Duration} {metered : Bool} {inner : Source}
      (h : Within part inner) : Within part (.cached id frequency metered inner)
  | member {metered : Bool} {members : List Source} {m : Source} (hm : m ∈ members)
      (h : Within part m) : Within part (.fanOut metered members)

theorem Within.trans {a b c : Source} (h : a.Within b) (h' : b.Within c) : a.Within c := by
  induction h' with
  | self => exact h
  | behind _ ih => exact .behind ih
  | member hm _ ih => exact .member hm ih

theorem Within.sizeOf_le {part s : Source} (h : part.Within s) : sizeOf part ≤ sizeOf s := by
  induction h with
  | self => exact Nat.le_refl _
  | behind _ ih => simp only [cached.sizeOf_spec]; omega
  | @member metered members m hm _ ih =>
    have := List.sizeOf_lt_of_mem hm
    simp only [fanOut.sizeOf_spec]
    omega

/-- All caches of a number which are part of a source are one and the same. -/
def HasOnly (s : Source) (id : Nat) (cache : Source) : Prop :=
  ∀ frequency metered inner, (cached id frequency metered inner).Within s →
    cached id frequency metered inner = cache

theorem HasOnly.of_within {id : Nat} {cache s part : Source} (h : s.HasOnly id cache)
    (hw : part.Within s) : part.HasOnly id cache :=
  fun frequency metered inner h' => h frequency metered inner (h'.trans hw)

/-- No cache is part of what it keeps. -/
theorem HasOnly.not_within {id : Nat} {frequency frequency' : Duration} {metered metered' : Bool}
    {inner inner' : Source}
    (h : inner.HasOnly id (.cached id frequency metered inner)) :
    ¬ (cached id frequency' metered' inner').Within inner := by
  intro hw
  have hle := hw.sizeOf_le
  rw [h _ _ _ hw] at hle
  simp only [cached.sizeOf_spec] at hle
  omega

end Source

namespace World

section
variable {w : World} {s s' : Source} {rs : List Refresh}

theorem Calls.within (h : w.Calls s rs s') : s'.Within s := by
  induction h with
  | self s => exact .self
  | through _ _ ih => exact .behind ih

/-- A call which goes through a cache comes to it first, and finds that it is expired. -/
theorem Calls.split (h : w.Calls s rs s') {r : Refresh} (hr : r ∈ rs) :
    ∃ first last inner, rs = last ++ r :: first ∧
      w.Calls s first (.cached r.cache r.frequency r.metered inner) ∧
      (w.caches r.cache).read w.clock = .expired r.previous ∧ w.Calls inner last s' := by
  induction h with
  | self s => cases hr
  | @through id frequency metered inner s' previous rs hread hc ih =>
    rcases List.mem_append.1 hr with hr | hr
    · obtain ⟨first, last, inner', rfl, hfirst, hread', hlast⟩ := ih hr
      exact ⟨_, last, inner', by simp, .through hread hfirst, hread', hlast⟩
    · obtain rfl := List.mem_singleton.1 hr
      exact ⟨[], rs, inner, rfl, .self _, hread, hc⟩

/-- The caches which a call goes through are expired, and the source it comes to is behind them. -/
theorem Calls.of_mem (h : w.Calls s rs s') {r : Refresh} (hr : r ∈ rs) :
    (w.caches r.cache).read w.clock = .expired r.previous ∧
      ∃ inner, (Source.cached r.cache r.frequency r.metered inner).Within s ∧ s'.Within inner := by
  obtain ⟨first, last, inner, -, hfirst, hread, hlast⟩ := h.split hr
  exact ⟨hread, inner, hfirst.within, hlast.within⟩

theorem Calls.trans {s'' : Source} {rs' : List Refresh} (h : w.Calls s rs s')
    (h' : w.Calls s' rs' s'') : w.Calls s (rs' ++ rs) s'' := by
  induction h with
  | self s => rwa [List.append_nil]
  | through hr _ ih => rw [← List.append_assoc]; exact .through hr (ih h')

end

/-! ## Coming to a cache -/

section
variable {w : World} {i : Nat} {t : Task} {s s' : Source} {rs : List Refresh}

theorem run_eq (ht : w.tasks[i]? = some t) (hs : t.phase = .ready s) (hc : w.Calls s rs s') :
    ∃ u : World, u.Agrees (w.pushAll i rs) ∧ w.run i = u.enter i t.scope s' := by
  obtain ⟨u, -, hagrees, henter⟩ := enter_eq hc i t.scope w (.refl w)
  refine ⟨u, hagrees, ?_⟩
  rw [← henter]
  unfold run
  rw [ht]
  simp only [hs]

/-- A task does with its source what it does with the source which its call comes to. -/
theorem run_of_calls (ht : w.tasks[i]? = some t) (hs : t.phase = .ready s)
    (hc : w.Calls s rs s') : ∃ rs' base, w.Calls s' rs' base ∧
      Turn (w.SourceEnds base) (w.SourceWaits t.scope i base) (w.pushAll i (rs' ++ rs)) i
        (w.run i) := by
  have h : w.run i = w.enter i t.scope s := by unfold run; rw [ht]; simp only [hs]
  rw [h]
  exact enter_calls hc i t.scope

theorem not_isReady_of_run {t' : Task} (ht : w.tasks[i]? = some t)
    (ht' : (w.run i).tasks[i]? = some t') : ¬ t'.isReady := by
  intro hready
  obtain ⟨u, hu, hf⟩ := follows_step w (.run i) ht
  obtain rfl := Option.some.inj (ht'.symm.trans hu)
  obtain rfl := hf.ready hready
  obtain ⟨s, hs⟩ := Task.isReady_iff.1 hready
  obtain ⟨rs, base, hc, hturn⟩ := run_of_calls ht hs (.self s)
  obtain ⟨phase, h, hphase⟩ := hturn.task_self (pushAll_task_self _ ht)
  rw [Option.some.inj (ht'.symm.trans h)] at hs
  rcases hphase with ⟨new, hw, -⟩ | ⟨o, -, rfl⟩
  · exact Phase.ne_ready_of_isBusy hw.isBusy s hs
  · cases hs

variable {id : Nat} {frequency : Duration} {metered : Bool} {inner : Source}

/-- A task which comes to a fresh cache ends with what is kept there. -/
theorem run_of_fresh {devices : List Device} (ht : w.tasks[i]? = some t)
    (hs : t.phase = .ready s) (hc : w.Calls s rs (.cached id frequency metered inner))
    (hr : (w.caches id).read w.clock = .fresh devices) :
    (w.run i).tasks[i]? =
      some { t with refreshes := rs ++ t.refreshes, phase := .finished (.found devices) } := by
  obtain ⟨rs', base, hb, hturn⟩ := run_of_calls ht hs hc
  cases hb with
  | through hr' _ => rw [hr] at hr'; cases hr'
  | self =>
    obtain ⟨phase, h, ⟨new, hw, -⟩ | ⟨o, ⟨devices', hr', rfl⟩, rfl⟩⟩ :=
      hturn.task_self (pushAll_task_self _ ht)
    · cases hw
    · rw [hr] at hr'
      cases hr'
      rwa [Outcome.coveredBy_found] at h

/-- A task which comes to an expired cache calls the source behind it. -/
theorem run_of_expired {previous : Option (List Device)} (ht : w.tasks[i]? = some t)
    (hs : t.phase = .ready s) (hc : w.Calls s rs (.cached id frequency metered inner))
    (hr : (w.caches id).read w.clock = .expired previous) :
    ∃ rs' base, w.Calls inner rs' base ∧
      Turn (w.SourceEnds base) (w.SourceWaits t.scope i base)
        (w.pushAll i (rs' ++ ⟨id, frequency, metered, previous⟩ :: rs)) i (w.run i) := by
  obtain ⟨rs', base, hb, hturn⟩ := run_of_calls ht hs (hc.trans (.through hr (.self _)))
  exact ⟨rs', base, hb, hturn⟩

end

/-! ## One cache of a number -/

/-- A task which is begun is about to call a source which is called from outside, or a part of one
    which another task was about to call. -/
theorem source_new_step (w : World) (l : Label) {j : Nat} {t : Task} (hle : w.tasks.length ≤ j)
    (ht : (w.step l).tasks[j]? = some t) :
    ∃ s, t.phase = .ready s ∧ (l.source? = some s ∨
      ∃ (i : Nat) (ti : Task) (si : Source),
        w.tasks[i]? = some ti ∧ ti.phase = .ready si ∧ s.Within si) := by
  rcases step_change w l with ⟨-, -, htasks⟩ | ⟨hl, hp, -, -, -, htasks⟩ |
    @⟨i, ti, s, base, rs, -, hti, hp, hc, h⟩ | @⟨i, ti, -, hti, hp, h⟩ |
    @⟨i, ti, -, hti, hover, -, -, -, htasks⟩
  · rw [htasks, List.getElem?_eq_none hle] at ht
    cases ht
  · rw [htasks, List.getElem?_append_right hle] at ht
    obtain rfl := List.mem_singleton.1 (List.mem_of_getElem? ht)
    exact ⟨_, hp, Or.inl hl⟩
  · obtain ⟨phase, new, hw, hnew⟩ := h.task_new (by rwa [pushAll_length]) ht
    cases base with
    | scripted id => simp [hw.1] at hnew
    | interface asked metered => simp [hw.1] at hnew
    | cached id frequency metered inner => cases hw
    | fanOut metered members =>
      obtain ⟨m, hm, rfl⟩ := List.mem_map.1 (hw.2 ▸ List.mem_of_getElem? hnew)
      exact ⟨m, rfl, Or.inr ⟨i, ti, s, hti, hp, (Source.Within.member hm .self).trans hc.within⟩⟩
  · obtain ⟨phase, new, hw, hnew⟩ := h.task_new hle ht
    cases hph : ti.phase with
    | calling call => rw [hph] at hw; simp [hw.1] at hnew
    | _ => rw [hph] at hw; cases hw
  · rw [htasks, List.getElem?_eq_none (by simpa using hle)] at ht
    cases ht

/-- A cache begins to wait for a task when the task calls its source. -/
theorem refresh_of_mem_step {w : World} {l : Label} {i : Nat} {t' : Task} {r : Refresh}
    (ht' : (w.step l).tasks[i]? = some t') (hr : r ∈ t'.refreshes) :
    ∃ t, w.tasks[i]? = some t ∧ (r ∈ t.refreshes ∨
      ∃ s rs base, t.phase = .ready s ∧ w.Calls s rs base ∧ r ∈ rs) := by
  rcases Nat.lt_or_ge i w.tasks.length with hlt | hle
  · obtain ⟨t, ht⟩ : ∃ t, w.tasks[i]? = some t := ⟨_, List.getElem?_eq_getElem hlt⟩
    refine ⟨t, ht, ?_⟩
    obtain ⟨u, hu, hm⟩ := moves_step l ht
    obtain rfl := Option.some.inj (ht'.symm.trans hu)
    cases hm with
    | @calls s base rs phase hl hp hc =>
      rcases List.mem_append.1 hr with hr | hr
      · exact Or.inr ⟨s, rs, base, hp, hc, hr⟩
      · exact Or.inl hr
    | _ => exact Or.inl hr
  · rw [(task_new_step w l hle ht').2] at hr
    cases hr

/-- What tasks are about to call has one cache of a number only, and the caches of that number which
    wait for tasks have its frequency. -/
structure HasOnly (w : World) (id : Nat) (frequency : Duration) (metered : Bool) (inner : Source) :
    Prop where
  ready : ∀ (i : Nat) (t : Task) (s : Source), w.tasks[i]? = some t → t.phase = .ready s →
    s.HasOnly id (.cached id frequency metered inner)
  refresh : ∀ (i : Nat) (t : Task) (r : Refresh), w.tasks[i]? = some t → r ∈ t.refreshes →
    r.cache = id → r.frequency = frequency

section
variable {id : Nat} {frequency : Duration} {metered : Bool} {inner : Source} {w : World}

theorem HasOnly.step (h : w.HasOnly id frequency metered inner) {l : Label}
    (hl : ∀ s, l.source? = some s → s.HasOnly id (.cached id frequency metered inner)) :
    (w.step l).HasOnly id frequency metered inner where
  ready i t s ht hs := by
    rcases Nat.lt_or_ge i w.tasks.length with hlt | hle
    · obtain ⟨t', ht', hf⟩ := follows_step w l (List.getElem?_eq_getElem hlt)
      obtain rfl := Option.some.inj (ht.symm.trans ht')
      have hold := hf.ready (by simp [Task.isReady, hs])
      exact h.ready i t s (by rw [List.getElem?_eq_getElem hlt, hold]) hs
    · obtain ⟨s', hs', hl' | ⟨j, tj, sj, htj, hsj, hw⟩⟩ := source_new_step w l hle ht
      · rw [hs] at hs'
        cases hs'
        exact hl s hl'
      · rw [hs] at hs'
        cases hs'
        exact (h.ready j tj sj htj hsj).of_within hw
  refresh i t r ht hr hid := by
    obtain ⟨t', ht', hr' | ⟨s, rs, base, hs, hc, hr'⟩⟩ := refresh_of_mem_step ht hr
    · exact h.refresh i t' r ht' hr' hid
    · obtain ⟨-, inner', hw, -⟩ := hc.of_mem hr'
      rw [hid] at hw
      have heq := h.ready i t' s ht' hs _ _ _ hw
      cases heq
      rfl

end

end World

/-- Along a run all caches of a number are one and the same. -/
def OneCache (labels : List Label) (id : Nat) (cache : Source) : Prop :=
  ∀ l ∈ labels, ∀ s, l.source? = some s → s.HasOnly id cache

namespace World

section
variable {id : Nat} {frequency : Duration} {metered : Bool} {inner : Source} {w : World}
  {labels : List Label}

theorem IsNew.hasOnly (hw : w.IsNew) : w.HasOnly id frequency metered inner where
  ready i t s ht := by rw [hw.tasks] at ht; cases ht
  refresh i t r ht := by rw [hw.tasks] at ht; cases ht

theorem HasOnly.after (h : w.HasOnly id frequency metered inner)
    (hone : OneCache labels id (.cached id frequency metered inner)) :
    (w.after labels).HasOnly id frequency metered inner := by
  induction labels generalizing w with
  | nil => exact h
  | cons l labels ih =>
    exact ih (h.step (hone l (List.mem_cons_self ..)))
      fun l' hl' => hone l' (List.mem_cons_of_mem _ hl')

theorem HasOnly.frequency_of_mem_commits (h : w.HasOnly id frequency metered inner)
    (hone : OneCache labels id (.cached id frequency metered inner)) {c : Commit}
    (hc : c ∈ w.commits id labels) : c.frequency = frequency := by
  induction labels generalizing w with
  | nil => cases hc
  | cons l labels ih =>
    have h' := h.step (hone l (List.mem_cons_self ..))
    rcases List.mem_append.1 hc with hc | hc
    · obtain ⟨j, -, hj⟩ := List.exists_of_findSome?_eq_some (Option.mem_toList.1 hc)
      split at hj
      · cases hj
      · obtain ⟨t, ht, htc⟩ := Option.bind_eq_some_iff.1 hj
        unfold Task.commit? at htc
        split at htc
        · obtain ⟨r, hr, rfl⟩ := Option.map_eq_some_iff.1 htc
          have hr := List.mem_of_getLast? hr
          obtain ⟨hmem, hid⟩ := List.mem_filter.1 hr
          exact h'.refresh j t r ht hmem (by simpa using hid)
        · cases htc
    · exact ih h' (fun l' hl' => hone l' (List.mem_cons_of_mem _ hl')) hc

end

/-- A task of a run which is about to call its source has no cache which waits for it yet. -/
theorem refreshes_of_isReady {w : World} (hw : w.tasks = []) (labels : List Label) {i : Nat}
    {t : Task} (ht : (w.after labels).tasks[i]? = some t) (hr : t.isReady) : t.refreshes = [] := by
  have hall : ∀ (u : World) (ls : List Label),
      (∀ (j : Nat) (a : Task), u.tasks[j]? = some a → a.isReady → a.refreshes = []) →
      ∀ (j : Nat) (a : Task), (u.after ls).tasks[j]? = some a → a.isReady → a.refreshes = [] := by
    intro u ls
    induction ls generalizing u with
    | nil => exact id
    | cons l ls ih =>
      intro hu
      refine ih (u.step l) fun j a ha har => ?_
      rcases Nat.lt_or_ge j u.tasks.length with hlt | hle
      · obtain ⟨b, hb, hf⟩ := follows_step u l (List.getElem?_eq_getElem hlt)
        obtain rfl := Option.some.inj (ha.symm.trans hb)
        have heq := hf.ready har
        exact hu j a (by rw [List.getElem?_eq_getElem hlt, heq]) har
      · exact (task_new_step u l hle ha).2
  exact hall w labels (fun j a ha => by rw [hw] at ha; cases ha) i t ht hr

/-! ## Asking the source behind a cache -/

/-- How often a task has asked the source behind a cache. -/
def asked (w : World) (i id : Nat) : Nat := (w.refreshesOf i).countP (·.cache = id)

theorem asked_eq {w : World} {i : Nat} {t : Task} (ht : w.tasks[i]? = some t) (id : Nat) :
    w.asked i id = t.refreshes.countP (·.cache = id) := by
  rw [asked, refreshesOf_eq ht]

section
variable {id : Nat} {frequency : Duration} {metered : Bool} {inner : Source} {w : World} {i : Nat}
  {t : Task} {s : Source} {rs : List Refresh}

theorem countP_eq_zero {rs : List Refresh} {id : Nat} (h : ∀ r ∈ rs, r.cache ≠ id) :
    rs.countP (·.cache = id) = 0 :=
  List.countP_eq_zero.2 fun r hr => by simpa using h r hr

/-- A call which comes to a cache did not go through it. -/
theorem Calls.cache_ne (hs : s.HasOnly id (.cached id frequency metered inner))
    (hc : w.Calls s rs (.cached id frequency metered inner)) : ∀ r ∈ rs, r.cache ≠ id := by
  intro r hr hid
  obtain ⟨-, inner', hw, hw'⟩ := hc.of_mem hr
  rw [hid] at hw
  have heq := hs _ _ _ hw
  cases heq
  exact (hs.of_within (.trans (.behind .self) hw)).not_within hw'

theorem Calls.cache_ne_inner (hs : inner.HasOnly id (.cached id frequency metered inner))
    {base : Source} (hc : w.Calls inner rs base) : ∀ r ∈ rs, r.cache ≠ id := by
  rintro r hr rfl
  obtain ⟨-, inner', hw, -⟩ := hc.of_mem hr
  exact hs.not_within hw

theorem asked_of_expired {previous : Option (List Device)}
    (hw : w.HasOnly id frequency metered inner)
    (ht : w.tasks[i]? = some t) (hs : t.phase = .ready s) (hrs : t.refreshes = [])
    (hc : w.Calls s rs (.cached id frequency metered inner))
    (hr : (w.caches id).read w.clock = .expired previous) : (w.run i).asked i id = 1 := by
  have hone := hw.ready i t s ht hs
  obtain ⟨rs', base, hb, hturn⟩ := run_of_expired ht hs hc hr
  obtain ⟨phase, h, -⟩ := hturn.task_self (pushAll_task_self _ ht)
  have h' : rs'.countP (·.cache = id) = 0 :=
    countP_eq_zero (hb.cache_ne_inner (hone.of_within (.trans (.behind .self) hc.within)))
  rw [asked_eq h]
  simp [hrs, h', countP_eq_zero (hc.cache_ne hone)]

end

end World

end TailnetTargets
