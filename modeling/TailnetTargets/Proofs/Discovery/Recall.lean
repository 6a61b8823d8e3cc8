/-
  What is reached when a call is recalled.

  * `World.IsRecalled`: a call from outside was canceled or dropped, or everything that is served
    was canceled, and the call is served;
  * `World.CanceledBy`: how a scope came to be canceled.  What ends with a task which has an outcome
    reaches nobody who has none;
  * `recall_reaches`: a recall reaches every task of the call, and nothing else does;
  * `visited`: two visits of a nested source, one of which is dropped.
-/
import TailnetTargets.Proofs.Discovery.Kin

namespace TailnetTargets

namespace World

/-! ## Runs -/

/-- A call from outside was canceled or dropped in a run, or everything that is served was canceled,
    and the call is served. -/
def IsRecalled (w₀ : World) (labels : List Label) (i : Nat) : Prop :=
  (∃ before l rest, labels = before ++ l :: rest ∧ (l = .cancel i ∨ l = .drop i) ∧
    ((w₀.after before).root? i).isSome) ∨
  (.shutDown ∈ labels ∧ ∃ t, (w₀.after labels).root? i = some t ∧ t.isServed)

section
variable {w₀ : World} {labels : List Label}

theorem root?_after {w : World} {i : Nat} {t : Task} (h : w.root? i = some t)
    (labels : List Label) : ∃ t', (w.after labels).root? i = some t' ∧ t.Follows t' := by
  obtain ⟨ht, hroot⟩ := root?_eq_some_iff.1 h
  obtain ⟨t', ht', hf⟩ := follows_after w labels ht
  exact ⟨t', root?_eq_some_iff.2 ⟨ht', hf.parent.trans hroot⟩, hf⟩

/-- A call which is dropped is over. -/
theorem isOver_of_drop {w : World} {i : Nat} {t : Task} (h : w.root? i = some t) :
    ∃ t', (w.step (.drop i)).tasks[i]? = some t' ∧ t'.isOver := by
  obtain ⟨ht, -⟩ := root?_eq_some_iff.1 h
  rw [step, drop_of_root h, close, (release_tasks w i t).2.2]
  split
  · next hover => exact ⟨t, ht, hover⟩
  · exact ⟨{ t with phase := .dropped }, by rw [List.getElem?_modify_eq, ht]; rfl, rfl⟩

/-- A call which is recalled is over, or it is canceled. -/
theorem IsRecalled.call {i : Nat} {t : Task} (h : IsRecalled w₀ labels i)
    (ht : (w₀.after labels).root? i = some t) :
    t.isOver ∨ (w₀.after labels).isCanceled t.scope := by
  rcases h with ⟨before, l, rest, rfl, hl, hroot⟩ | ⟨hmem, t', ht', hserved⟩
  · obtain ⟨u, hu⟩ := Option.isSome_iff_exists.1 hroot
    obtain ⟨t', ht', hf⟩ := root?_after hu (l :: rest)
    rw [← after_append] at ht'
    obtain rfl := Option.some.inj (ht.symm.trans ht')
    rw [after_append, after_cons]
    rcases hl with rfl | rfl
    · right
      refine isCanceled_after ?_ rest
      have hcancels : u.scope ∈ ((w₀.after before).step (.cancel i)).canceled := by
        rw [canceled_step, cancels, hu]
        exact List.mem_cons_self ..
      rw [hf.scope]
      exact Scope.isCanceled_of_mem hcancels (Scope.contains_self _)
    · left
      obtain ⟨v, hv, hover⟩ := isOver_of_drop hu
      have hlater := task_after_of_isOver hv hover rest
      rw [← after_cons, ← after_append] at hlater
      obtain rfl := Option.some.inj ((root?_eq_some_iff.1 ht).1.symm.trans hlater)
      exact hover
  · obtain rfl := Option.some.inj (ht.symm.trans ht')
    obtain ⟨before, rest, rfl⟩ := List.append_of_mem hmem
    have hcancels : Scope.shutdown ∈ (w₀.after (before ++ .shutDown :: rest)).canceled :=
      mem_canceled_after.2 (Or.inr ⟨before, _, rest, rfl, List.mem_cons_self ..⟩)
    exact Or.inr (Scope.isCanceled_of_mem hcancels hserved)

/-- A task which goes on and is over then has an outcome. -/
theorem outcome?_of_ends {w : World} {l : Label} {i : Nat}
    (hl : l = .run i ∨ ∃ r, l = .reply i r) (h : w.ends (w.step l) i) :
    ((w.step l).outcome? i).isSome := by
  rw [ends, Bool.and_eq_true, Bool.not_eq_true'] at h
  obtain ⟨hruns, hover⟩ := h
  cases ht : w.tasks[i]? with
  | none =>
    rw [isOver, ht] at hruns
    cases hruns
  | some t =>
    obtain ⟨t', ht', hm⟩ := moves_step l ht
    rw [isOver, ht, Option.all_some] at hruns
    rw [isOver, ht', Option.all_some] at hover
    rw [outcome?, ht', Option.bind_some]
    cases hm with
    | stays =>
      rw [hruns] at hover
      cases hover
    | @calls s base rs phase _ _ _ h =>
      rcases h with ⟨new, hwaits⟩ | ⟨o, -, rfl⟩
      · rw [Task.isOver_of_isBusy (t := { t with refreshes := rs ++ t.refreshes, phase })
          hwaits.isBusy] at hover
        cases hover
      · rfl
    | @waits phase new _ _ h =>
      rw [Task.isOver_of_isBusy (t := { t with phase }) h.isBusy] at hover
      cases hover
    | ends => rfl
    | drops hdrop =>
      rw [hdrop] at hl
      rcases hl with hl | ⟨r, hl⟩ <;> cases hl

/-- Why a scope is canceled after a run. -/
inductive CanceledBy (w₀ : World) (labels : List Label) (s : Scope) : Prop where
  /-- everything that is served was canceled -/
  | shutDown (h : .shutDown ∈ labels) (hs : Scope.shutdown.contains s)
  /-- a call from outside was canceled -/
  | call {before rest : List Label} {k : Nat} {t : Task} (h : labels = before ++ .cancel k :: rest)
    (ht : (w₀.after before).root? k = some t) (hs : t.scope.contains s)
  /-- a call from outside was dropped -/
  | drop {before rest : List Label} {k : Nat} {t : Task} {c : Scope}
    (h : labels = before ++ .drop k :: rest) (ht : (w₀.after before).root? k = some t)
    (hc : c ∈ t.closes k) (hs : c.contains s)
  /-- a task has ended by itself -/
  | ends {k : Nat} {t : Task} {c : Scope} (ht : (w₀.after labels).tasks[k]? = some t)
    (ho : ((w₀.after labels).outcome? k).isSome) (hc : c ∈ t.closes k) (hs : c.contains s)

/-- What ends with a task which goes on in a run. -/
theorem canceledBy_of_ends {before rest : List Label} {l : Label} {k : Nat} {c s : Scope}
    (hl : l = .run k ∨ ∃ r, l = .reply k r)
    (hc : c ∈ if (w₀.after before).ends ((w₀.after before).step l) k then
      (w₀.after before).closesOf k else []) (hs : c.contains s) :
    CanceledBy w₀ (before ++ l :: rest) s := by
  split at hc
  · next hends =>
    obtain ⟨o, ho⟩ := Option.isSome_iff_exists.1 (outcome?_of_ends hl hends)
    have hlater := outcome?_after rest ho
    rw [← after_cons, ← after_append] at hlater
    rw [closesOf] at hc
    cases ht : (w₀.after before).tasks[k]? with
    | none =>
      rw [ht] at hc
      cases hc
    | some t =>
      rw [ht] at hc
      obtain ⟨t', ht', hf⟩ := follows_after (w₀.after before) (l :: rest) ht
      rw [← after_append] at ht'
      have hcloses : t'.closes k = t.closes k := by
        rw [Task.closes, Task.closes, Task.isServed, Task.isServed, hf.scope, hf.parent]
      exact .ends ht' (by rw [hlater]; rfl) (hcloses ▸ hc) hs
  · cases hc

theorem canceledBy_of_isCanceled (hnone : w₀.canceled = []) {s : Scope}
    (h : (w₀.after labels).isCanceled s) : CanceledBy w₀ labels s := by
  obtain ⟨c, hmem, hs⟩ := List.any_eq_true.1 h
  rcases mem_canceled_after.1 hmem with hmem | ⟨before, l, rest, rfl, hc⟩
  · rw [hnone] at hmem
    cases hmem
  · cases l with
    | shutDown =>
      obtain rfl := List.mem_singleton.1 hc
      exact .shutDown (by simp) hs
    | cancel k =>
      simp only [cancels] at hc
      split at hc
      · next t ht =>
        obtain rfl := List.mem_singleton.1 hc
        exact .call rfl ht hs
      · cases hc
    | drop k =>
      simp only [cancels] at hc
      split at hc
      · next t ht => exact .drop rfl ht hc hs
      · cases hc
    | run k => exact canceledBy_of_ends (Or.inl rfl) hc hs
    | reply k r => exact canceledBy_of_ends (Or.inr ⟨r, rfl⟩) hc hs
    | _ => cases hc

/-- Only what is recalled is canceled while it has not ended. -/
theorem isRecalled_of_isCanceled (hw : w₀.tasks = []) (hnone : w₀.canceled = []) {i j : Nat}
    {t u : Task} (hroot : (w₀.after labels).root? i = some t)
    (hbelow : (w₀.after labels).Beneath i j) (hu : (w₀.after labels).tasks[j]? = some u)
    (hruns : ¬ u.isOver)
    (hcanceled : (w₀.after labels).isCanceled u.scope) : IsRecalled w₀ labels i := by
  have hkin := isKin_after hw labels
  have hforest := (isForest_of_tasks hw).after labels
  obtain ⟨ht, hparent⟩ := root?_eq_some_iff.1 hroot
  have hcall := hkin.call i t ht hparent
  have hin := (hkin.contains hbelow ht hu).1
  have hcaller := Scope.caller?_of_contains hin hcall.caller?
  have hcalls : ∀ {before : List Label} {k : Nat} {v : Task}, (w₀.after before).root? k = some v →
      v.IsCall k := fun {before} {k} {v} hv =>
    (isKin_after hw before).call k v (root?_eq_some_iff.1 hv).1 (root?_eq_some_iff.1 hv).2
  cases canceledBy_of_isCanceled hnone hcanceled with
  | shutDown hmem hserved => exact Or.inr ⟨hmem, t, hroot, hcall.isServed_of_contains hin hserved⟩
  | @call before rest k v hlabels hv hs =>
    have hk := Scope.caller?_of_contains hs (hcalls hv).caller?
    obtain rfl : i = k := Option.some.inj (hcaller.symm.trans hk)
    exact Or.inl ⟨before, _, rest, hlabels, Or.inl rfl, by rw [hv]; rfl⟩
  | @drop before rest k v c hlabels hv hc hs =>
    have hk := Scope.caller?_of_contains hs ((hcalls hv).caller?_of_mem_closes hc)
    obtain rfl : i = k := Option.some.inj (hcaller.symm.trans hk)
    exact Or.inl ⟨before, _, rest, hlabels, Or.inr rfl, by rw [hv]; rfl⟩
  | @ends k v c hv ho hc hs =>
    -- whoever lies in a scope which ended with a task is beneath that task, and has ended before it
    have hpath := (hkin.path_of_mem_closes hforest hv hc).1
    have hbeneath := hkin.beneath_of_contains hforest hpath hu hs
    obtain ⟨o, ho'⟩ := Option.isSome_iff_exists.1 (hkin.outcome?_of_beneath hforest hbeneath hu ho)
    rw [outcome?, hu, Option.bind_some] at ho'
    exact absurd (isOver_of_outcome? ho') hruns

/-- The scope which a caller provides is canceled by the caller alone. -/
theorem isCanceled_ofCall_iff (hw : w₀.tasks = []) (hnone : w₀.canceled = []) (i : Nat) :
    (w₀.after labels).isCanceled (.ofCall i) ↔ ∃ before rest t,
      labels = before ++ .cancel i :: rest ∧ (w₀.after before).root? i = some t ∧ ¬ t.isServed := by
  have hkin := fun before => isKin_after hw before
  have hshort : ∀ {before : List Label} {k : Nat} {t : Task} {c : Scope},
      (w₀.after before).tasks[k]? = some t → c ∈ t.closes k → ¬ c.contains (.ofCall i) := by
    intro before k t c ht hc hs
    have htwo := ((hkin before).path_of_mem_closes ((isForest_of_tasks hw).after before) ht hc).2
    exact absurd (Nat.le_trans htwo (Scope.contains_iff.1 hs).length_le) (by simp [Scope.ofCall])
  constructor
  · intro h
    cases canceledBy_of_isCanceled hnone h with
    | shutDown _ hs => cases hs
    | @call before rest k t hlabels ht hs =>
      have hcall := (hkin before).call k t (root?_eq_some_iff.1 ht).1 (root?_eq_some_iff.1 ht).2
      obtain rfl : i = k := Option.some.inj (Scope.caller?_of_contains hs hcall.caller?)
      exact ⟨before, rest, t, hlabels, ht, fun hserved => hcall.not_contains_ofCall hserved i hs⟩
    | drop _ ht hc hs => exact absurd hs (hshort (root?_eq_some_iff.1 ht).1 hc)
    | ends ht _ hc hs => exact absurd hs (hshort ht hc)
  · rintro ⟨before, rest, t, rfl, ht, hserved⟩
    have hcall := (hkin before).call i t (root?_eq_some_iff.1 ht).1 (root?_eq_some_iff.1 ht).2
    have hscope := hcall.scope_of_isServed
    rw [if_neg hserved] at hscope
    have hmem : Scope.ofCall i ∈ (w₀.after (before ++ .cancel i :: rest)).canceled := by
      refine mem_canceled_after.2 (Or.inr ⟨before, _, rest, rfl, ?_⟩)
      simp [cancels, ht, hscope]
    exact Scope.isCanceled_of_mem hmem (Scope.contains_self _)

/-- What is served as a whole is canceled only when all of it is. -/
theorem isCanceled_shutdown_iff (hw : w₀.tasks = []) (hnone : w₀.canceled = []) :
    (w₀.after labels).isCanceled .shutdown ↔ .shutDown ∈ labels := by
  have hshort : ∀ {before : List Label} {k : Nat} {t : Task} {c : Scope},
      (w₀.after before).tasks[k]? = some t → c ∈ t.closes k → ¬ c.contains .shutdown := by
    intro before k t c ht hc hs
    have htwo := ((isKin_after hw before).path_of_mem_closes
      ((isForest_of_tasks hw).after before) ht hc).2
    exact absurd (Nat.le_trans htwo (Scope.contains_iff.1 hs).length_le) (by decide)
  constructor
  · intro h
    cases canceledBy_of_isCanceled hnone h with
    | shutDown hmem _ => exact hmem
    | @call before rest k t hlabels ht hs =>
      have hcall := (isKin_after hw before).call k t (root?_eq_some_iff.1 ht).1
        (root?_eq_some_iff.1 ht).2
      cases Scope.caller?_of_contains hs hcall.caller?
    | drop _ ht hc hs => exact absurd hs (hshort (root?_eq_some_iff.1 ht).1 hc)
    | ends ht _ hc hs => exact absurd hs (hshort ht hc)
  · intro h
    obtain ⟨before, rest, rfl⟩ := List.append_of_mem h
    have hmem : Scope.shutdown ∈ (w₀.after (before ++ .shutDown :: rest)).canceled :=
      mem_canceled_after.2 (Or.inr ⟨before, _, rest, rfl, List.mem_cons_self ..⟩)
    exact Scope.isCanceled_of_mem hmem (Scope.contains_self _)

/-- **A call which is recalled is recalled with everything that was begun for it, and nothing else
    is.**  Whenever a call from outside is canceled or dropped, or it is served when everything that
    is served is canceled, each of its tasks has ended, was dropped with it, or is canceled; and
    only then is one of them canceled before it has ended.  The scope which a caller provides is
    canceled by the caller alone, and what is served as a whole only when all of it is. -/
theorem recall_reaches (hw : w₀.tasks = []) (hnone : w₀.canceled = []) (labels : List Label) :
    (∀ (i j : Nat) (t u : Task), (w₀.after labels).root? i = some t →
      (w₀.after labels).Beneath i j → (w₀.after labels).tasks[j]? = some u →
      (IsRecalled w₀ labels i → (∃ o, u.outcome? = some o) ∨ (u.phase = .dropped ∧ j = i) ∨
        (w₀.after labels).isCanceled u.scope) ∧
      (¬ u.isOver → (w₀.after labels).isCanceled u.scope → IsRecalled w₀ labels i)) ∧
    (∀ i, (w₀.after labels).isCanceled (.ofCall i) ↔
      ∃ before rest t, labels = before ++ .cancel i :: rest ∧
        (w₀.after before).root? i = some t ∧ ¬ t.isServed) ∧
    ((w₀.after labels).isCanceled .shutdown ↔ .shutDown ∈ labels) := by
  have hkin := isKin_after hw labels
  have hforest := (isForest_of_tasks hw).after labels
  refine ⟨fun i j t u hroot hbelow hu => ⟨fun hrecalled => ?_,
    isRecalled_of_isCanceled hw hnone hroot hbelow hu⟩, isCanceled_ofCall_iff hw hnone,
    isCanceled_shutdown_iff hw hnone⟩
  obtain ⟨ht, -⟩ := root?_eq_some_iff.1 hroot
  have hleft : u.isOver ∨ (w₀.after labels).isCanceled u.scope := by
    rcases hrecalled.call hroot with hover | hcanceled
    · exact hkin.rest hforest hbelow ht hu hover
    · exact Or.inr (hkin.isCanceled_of_beneath hbelow ht hu hcanceled)
  rcases hleft with hover | hcanceled
  · cases hph : u.phase with
    | finished o => exact Or.inl ⟨o, by simp [Task.outcome?, hph]⟩
    | dropped => exact Or.inr (Or.inl ⟨rfl, hkin.eq_of_dropped hbelow hu hph⟩)
    | _ => simp [Task.isOver, hph] at hover
  · exact Or.inr (Or.inr hcanceled)

end

/-! ## Two visits -/

/-- A world whose scripts take a second. -/
def slow : World where
  scripts _ := { cues := [{ delay := some (.ofSeconds 1) }] }

/-- A joint source behind a cache, one member of which is a joint source as well. -/
def layered : Source :=
  .cached 0 (.ofSeconds 60) false (.fanOut false [.scripted 0,
    .fanOut false [.cached 1 (.ofSeconds 60) false (.scripted 1)]])

/-- Two visits which share all caches and wait for all scripts.  The first one is dropped. -/
def visited : List Label :=
  [.serve layered, .serve layered, .run 0, .run 1, .run 2, .run 3, .run 4, .run 5, .run 6, .run 7,
    .drop 0]

/-- The innermost script of the first visit is canceled with it; that of the second one would be
    canceled only if that one were recalled. -/
theorem recall_reaches_visited :
    IsRecalled slow visited 0 ∧
    (slow.after visited).isCanceled ⟨[0, 1, 1, 4]⟩ ∧
    ((slow.after visited).isCanceled ⟨[0, 2, 2, 6]⟩ → IsRecalled slow visited 1) ∧
    ((slow.after visited).isCanceled .shutdown ↔ .shutDown ∈ visited) := by
  have hrecalled : IsRecalled slow visited 0 :=
    Or.inl ⟨visited.dropLast, .drop 0, [], rfl, Or.inr rfl, rfl⟩
  obtain ⟨hreaches, -, hshutdown⟩ := @recall_reaches slow rfl rfl visited
  have hfirst := (hreaches 0 6 _ _ rfl (.child rfl rfl (.child rfl rfl .self)) rfl).1 hrecalled
  have hsecond := (hreaches 1 7 _ _ rfl (.child rfl rfl (.child rfl rfl .self)) rfl).2
  refine ⟨hrecalled, ?_, hsecond (by decide), hshutdown⟩
  rcases hfirst with ⟨o, ho⟩ | ⟨-, h⟩ | h
  · cases ho
  · cases h
  · exact h

end World

end TailnetTargets
