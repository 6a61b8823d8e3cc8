/-
  Whose devices a cache answers with.

  * `World.Fetched`: a task has asked the source behind a cache and found devices;
  * `World.FetchedLast`: whoever else did, had done so before (`exists_fetchedLast`);
  * `World.AnsweredWith`: a call is answered with what a cache keeps;
  * `World.KeepsOrder`: nobody is answered with devices which were asked for before others which are
    kept already;
  * `answered_latest`: everybody is answered with the devices which were kept last;
  * `overtaken`, `overtake`: the devices which were asked for first are kept last.
-/
import TailnetTargets.Proofs.Discovery.Cover
import TailnetTargets.Proofs.Discovery.RateBound

namespace TailnetTargets

namespace World

/-- A task has asked the source behind a cache, and has found devices. -/
def Fetched (w : World) (j id : Nat) (devices : List Device) : Prop :=
  0 < w.asked j id ∧ w.outcome? j = some (.found devices)

/-- A task has fetched devices for a cache, and whoever else did so had done it before. -/
structure FetchedLast (w₀ : World) (labels : List Label) (j id : Nat) (devices : List Device) :
    Prop where
  fetched : (w₀.after labels).Fetched j id devices
  last : ∀ first, first <+: labels → (w₀.after first).Fetched j id devices →
    ∀ k ds, (w₀.after labels).Fetched k id ds → (w₀.after first).Fetched k id ds

/-- A call which comes to a cache is answered with devices that are kept there: as they are, or
    because the source failed. -/
def AnsweredWith (w : World) (i id : Nat) (rs : List Refresh) (later : List Label)
    (devices : List Device) : Prop :=
  ((w.caches id).read w.clock = .fresh devices ∧
    ((w.run i).after later).outcome? i = some (.found devices)) ∨
  ∃ f, (w.caches id).read w.clock = .expired (some devices) ∧
    ((w.run i).after later).outcome? i = some ((Outcome.failed (.stale devices f)).coveredBy rs)

/-- When devices are kept, nobody who comes to the cache is answered with those of a task which
    asked before. -/
def KeepsOrder (w₀ : World) (labels : List Label) (id : Nat) : Prop :=
  ∀ (first second later : List Label) (a b i : Nat) (t : Task) (s : Source) (rs : List Refresh)
    (frequency : Duration) (metered : Bool) (inner : Source) (da db devices : List Device),
    labels = first ++ second ++ .run i :: later →
    0 < (w₀.after first).asked a id → (w₀.after first).asked b id = 0 →
    (w₀.after labels).Fetched a id da → (w₀.after (first ++ second)).Fetched b id db →
    (w₀.after (first ++ second)).tasks[i]? = some t → t.phase = .ready s →
    (w₀.after (first ++ second)).Calls s rs (.cached id frequency metered inner) →
    (w₀.after (first ++ second)).AnsweredWith i id rs later devices →
    ∃ x, x ≠ a ∧ (w₀.after labels).Fetched x id devices

/-! ## Who has fetched devices -/

theorem asked_pos_iff {w : World} {j : Nat} {t : Task} (ht : w.tasks[j]? = some t) (id : Nat) :
    0 < w.asked j id ↔ ∃ r ∈ t.refreshes, r.cache = id := by
  simp [asked_eq ht, List.countP_pos_iff]

section
variable {w : World} {l : Label} {j id : Nat} {devices : List Device}

theorem Fetched.exists_task (h : w.Fetched j id devices) : ∃ t, w.tasks[j]? = some t ∧
    t.outcome? = some (.found devices) ∧ ∃ r ∈ t.refreshes, r.cache = id := by
  obtain ⟨t, ht, ho⟩ := Option.bind_eq_some_iff.1 h.2
  exact ⟨t, ht, ho, (asked_pos_iff ht id).1 h.1⟩

theorem fetched_of_task {t : Task} (ht : w.tasks[j]? = some t)
    (ho : t.outcome? = some (.found devices)) (hr : ∃ r ∈ t.refreshes, r.cache = id) :
    w.Fetched j id devices :=
  ⟨(asked_pos_iff ht id).2 hr, by rw [outcome?, ht]; exact ho⟩

theorem Fetched.after (h : w.Fetched j id devices) (labels : List Label) :
    (w.after labels).Fetched j id devices := by
  obtain ⟨t, ht, ho, hr⟩ := h.exists_task
  exact fetched_of_task (task_after_of_isOver ht (isOver_of_outcome? ho) labels) ho hr

/-- Who commits devices to a cache has fetched them in that very step. -/
theorem fetched_of_commit? {c : Commit} (h : w.commit? l id = some c) :
    ∃ j, (w.step l).Fetched j id c.devices ∧ ∀ ds, ¬ w.Fetched j id ds := by
  obtain ⟨j, -, hj⟩ := List.exists_of_findSome?_eq_some h
  split at hj
  · cases hj
  · next hover =>
    obtain ⟨t, ht, hc⟩ := Option.bind_eq_some_iff.1 hj
    refine ⟨j, ?_, fun ds hds => ?_⟩
    · unfold Task.commit? at hc
      split at hc
      · next devices ho =>
        obtain ⟨r, hr, rfl⟩ := Option.map_eq_some_iff.1 hc
        obtain ⟨hmem, hid⟩ := List.mem_filter.1 (List.mem_of_getLast? hr)
        exact fetched_of_task ht ho ⟨r, hmem, by simpa using hid⟩
      · cases hc
    · obtain ⟨u, hu, ho, -⟩ := hds.exists_task
      simp [isOver, hu, isOver_of_outcome? ho] at hover

/-- Nobody fetches devices in a step which commits nothing. -/
theorem Fetched.of_step (h : (w.step l).Fetched j id devices) (hc : w.commit? l id = none) :
    w.Fetched j id devices := by
  obtain ⟨t, ht, ho, hr⟩ := h.exists_task
  exact fetched_of_task (task_of_commit?_none hc ht ho hr) ho hr

end

/-! ## Who has fetched them last -/

/-- What was committed last was fetched by somebody, and by everybody else before. -/
theorem exists_fetchedLast {w₀ : World} {labels : List Label} {id : Nat} {c : Commit}
    (h : (w₀.commits id labels).getLast? = some c) :
    ∃ j, w₀.FetchedLast labels j id c.devices := by
  -- who commits in the last step has fetched after everybody else; a last step which commits
  -- nothing lets nobody fetch anything
  induction labels using List.reverseRecOn with
  | nil => cases h
  | append_singleton labels l ih =>
    have hstep : w₀.after (labels ++ [l]) = (w₀.after labels).step l := after_append ..
    rw [commits_snoc] at h
    cases hc : (w₀.after labels).commit? l id with
    | some c' =>
      simp only [hc, Option.toList_some, List.getLast?_append, List.getLast?_singleton,
        Option.some_or, Option.some.injEq] at h
      subst h
      obtain ⟨j, hj, hnot⟩ := fetched_of_commit? hc
      refine ⟨j, hstep ▸ hj, fun first hfirst hf k ds hk => ?_⟩
      rcases List.prefix_concat_iff.1 hfirst with rfl | ⟨rest, rfl⟩
      · exact hk
      · rw [after_append] at hnot
        exact absurd (hf.after rest) (hnot _)
    | none =>
      rw [hc, Option.toList_none, List.append_nil] at h
      obtain ⟨j, hj, hlast⟩ := ih h
      refine ⟨j, hstep ▸ hj.after [l], fun first hfirst hf k ds hk => ?_⟩
      rcases List.prefix_concat_iff.1 hfirst with rfl | hfirst
      · exact hk
      · rw [hstep] at hk
        exact hlast first hfirst hf k ds (hk.of_step hc)

/-- When somebody has fetched devices, some were committed. -/
theorem Fetched.commits_ne_nil {w₀ : World} (hw : w₀.IsNew) {labels : List Label} {j id : Nat}
    {devices : List Device} (h : (w₀.after labels).Fetched j id devices) :
    w₀.commits id labels ≠ [] := by
  induction labels using List.reverseRecOn with
  | nil =>
    obtain ⟨t, ht, -⟩ := h.exists_task
    have hnil : (w₀.after []).tasks = [] := hw.tasks
    rw [hnil] at ht
    cases ht
  | append_singleton labels l ih =>
    rw [commits_snoc]
    cases hc : (w₀.after labels).commit? l id with
    | some c => simp
    | none =>
      rw [after_append] at h
      simpa using ih (h.of_step hc)

/-! ## What a call is answered with -/

section
variable {w : World} {i id : Nat} {t : Task} {s inner : Source} {rs : List Refresh}
  {frequency : Duration} {metered : Bool} {kept : List Device}

theorem answeredWith_of_fresh (ht : w.tasks[i]? = some t) (hs : t.phase = .ready s)
    (hc : w.Calls s rs (.cached id frequency metered inner))
    (hr : (w.caches id).read w.clock = .fresh kept) (later : List Label) (ds : List Device) :
    w.AnsweredWith i id rs later ds ↔ ds = kept := by
  have hout : ((w.run i).after later).outcome? i = some (.found kept) := by
    refine outcome?_after later ?_
    rw [outcome?, run_of_fresh ht hs hc hr]
    rfl
  constructor
  · rintro (⟨h, -⟩ | ⟨f, h, -⟩)
    · rw [hr] at h
      cases h
      rfl
    · rw [hr] at h
      cases h
  · rintro rfl
    exact Or.inl ⟨hr, hout⟩

theorem answeredWith_of_expired (ht : w.tasks[i]? = some t) (hs : t.phase = .ready s)
    (hrs : t.refreshes = []) (hc : w.Calls s rs (.cached id frequency metered inner))
    (hr : (w.caches id).read w.clock = .expired (some kept)) (later : List Label)
    (ds : List Device) :
    w.AnsweredWith i id rs later ds ↔
      ds = kept ∧ ∃ f, w.direct? i inner later = some (.failed f) := by
  have hout := outcome?_of_expired ht hs hrs hc hr later
  constructor
  · rintro (⟨h, -⟩ | ⟨f, h, hends⟩)
    · rw [hr] at h
      cases h
    · rw [hr] at h
      cases h
      refine ⟨rfl, f, ?_⟩
      rw [hout] at hends
      obtain ⟨o, ho, heq⟩ := Option.map_eq_some_iff.1 hends
      have hcovered : o.covered (some kept) = (Outcome.failed f).covered (some kept) :=
        Outcome.coveredBy_injective rs heq
      rw [ho, Outcome.covered_injective (some kept) hcovered]
  · rintro ⟨rfl, f, hf⟩
    exact Or.inr ⟨f, hr, by rw [hout, hf]; rfl⟩

end

section
variable {w₀ : World} {before first : List Label} {a b i id : Nat} {t : Task} {s inner : Source}
  {rs : List Refresh} {frequency : Duration} {metered : Bool} {da db : List Device}

/-- **A call is answered with the devices which were kept last**, in the order in which the tasks
    ended, not in that in which they asked.  When one task has fetched devices after another one,
    nobody is answered with those of the other one any more. -/
theorem answered_latest (hw : w₀.IsNew) (hfirst : first <+: before)
    (ha : (w₀.after first).Fetched a id da) (hb : ∀ ds, ¬ (w₀.after first).Fetched b id ds)
    (hb' : (w₀.after before).Fetched b id db) (ht : (w₀.after before).tasks[i]? = some t)
    (hs : t.phase = .ready s)
    (hc : (w₀.after before).Calls s rs (.cached id frequency metered inner)) :
    ∃ x devices, x ≠ a ∧ w₀.FetchedLast before x id devices ∧
      ∀ later ds, (w₀.after before).AnsweredWith i id rs later ds ↔
        ds = devices ∧
          ((∃ kept, ((w₀.after before).caches id).read (w₀.after before).clock = .fresh kept) ∨
            ∃ f, (w₀.after before).direct? i inner later = some (.failed f)) := by
  have hrs := refreshes_of_isReady hw.tasks before ht (Task.isReady_iff.2 ⟨s, hs⟩)
  obtain ⟨c, hlast⟩ : ∃ c, (w₀.commits id before).getLast? = some c :=
    ⟨_, List.getLast?_eq_some_getLast (hb'.commits_ne_nil hw)⟩
  obtain ⟨x, hx⟩ := exists_fetchedLast hlast
  refine ⟨x, c.devices, ?_, hx, fun later ds => ?_⟩
  · -- when the first task had fetched its devices, the second one had not
    rintro rfl
    obtain ⟨rest, rfl⟩ := hfirst
    have heq : da = c.devices := by
      have h := (ha.after rest).2
      rw [← after_append, hx.fetched.2] at h
      cases h
      rfl
    exact hb db (hx.last first (List.prefix_append _ _) (heq ▸ ha) b db hb')
  · have hread := read_after hw before id
    simp only [hlast] at hread
    by_cases hlt : (w₀.after before).clock < c.deadline
    · rw [if_pos hlt] at hread
      rw [answeredWith_of_fresh ht hs hc hread]
      exact ⟨fun h => ⟨h, Or.inl ⟨_, hread⟩⟩, fun h => h.1⟩
    · rw [if_neg hlt] at hread
      rw [answeredWith_of_expired ht hs hrs hc hread]
      refine and_congr_right fun _ => ⟨Or.inr, ?_⟩
      rintro (⟨kept, hkept⟩ | hf)
      · rw [hread] at hkept
        cases hkept
      · exact hf

end

/-! ## A call which is overtaken -/

/-- A world whose script finds devices slowly, then others at once, and then none. -/
def overtaken : World where
  scripts _ := { cues := [
    { delay := some (.ofMillis 100), outcome := .found [{ hostname := "a" }] },
    { outcome := .found [{ hostname := "b" }] }, { outcome := .failed .canceled }] }

theorem overtaken_isNew : overtaken.IsNew := ⟨rfl, fun _ => rfl, fun _ => Nat.le_refl _⟩

/-- Two calls, the second of which ends first. -/
def overtake : List Label :=
  [.call minutely, .run 0, .call minutely, .run 1, .advance (.ofMillis 100), .run 0]

/-- A third call is answered with the devices which were asked for first, at once and also when a
    minute has passed and the source fails. -/
theorem not_keepsOrder :
    ¬ overtaken.KeepsOrder (overtake ++ [.call minutely, .run 2]) 0 ∧
      ¬ overtaken.KeepsOrder
        (overtake ++ [.advance (.ofSeconds 60), .call minutely, .run 2]) 0 := by
  constructor
  · intro h
    obtain ⟨x, hx, hasked, hends⟩ := h [.call minutely, .run 0, .call minutely]
      [.run 1, .advance (.ofMillis 100), .run 0, .call minutely] [] 0 1 2 _ _ _ _ _ _ _ _ _ rfl
      (by decide) rfl ⟨by decide, rfl⟩ ⟨by decide, rfl⟩ rfl rfl (.self _) (Or.inl ⟨rfl, rfl⟩)
    match x with
    | 0 => exact hx rfl
    | 1 => exact absurd (congrArg (Option.map Outcome.devices) hends) (by decide)
    | 2 => exact absurd hasked (by decide)
    | x + 3 => cases hends
  · intro h
    obtain ⟨x, hx, -, hends⟩ := h [.call minutely, .run 0, .call minutely]
      [.run 1, .advance (.ofMillis 100), .run 0, .advance (.ofSeconds 60), .call minutely] [] 0 1 2
      _ _ _ _ _ _ _ _ [{ hostname := "a" }] rfl (by decide) rfl ⟨by decide, rfl⟩ ⟨by decide, rfl⟩
      rfl rfl (.self _) (Or.inr ⟨_, rfl, rfl⟩)
    match x with
    | 0 => exact hx rfl
    | 1 => exact absurd (congrArg (Option.map Outcome.devices) hends) (by decide)
    | 2 => cases hends
    | x + 3 => cases hends

theorem answered_latest_overtaken :
    ∃ x devices, x ≠ 1 ∧ overtaken.FetchedLast (overtake ++ [.call minutely]) x 0 devices ∧
      (overtaken.after (overtake ++ [.call minutely])).AnsweredWith 2 0 [] [] devices := by
  obtain ⟨x, devices, hx, hlast, h⟩ := @answered_latest overtaken (overtake ++ [.call minutely])
    [.call minutely, .run 0, .call minutely, .run 1] 1 0 2 0 _ _ _ _ _ _ _ _ overtaken_isNew
    ⟨[.advance (.ofMillis 100), .run 0, .call minutely], rfl⟩
    ⟨by decide, rfl⟩ (fun ds h => by cases h.2) ⟨by decide, rfl⟩ rfl rfl (.self _)
  exact ⟨x, devices, hx, hlast, (h [] devices).2 ⟨rfl, Or.inl ⟨_, rfl⟩⟩⟩

end World

end TailnetTargets
