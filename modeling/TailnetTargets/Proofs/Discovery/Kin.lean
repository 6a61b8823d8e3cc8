/-
  Scopes of tasks, and of those for which they were begun.

  * `Scope.caller?` is the call from outside to which a scope belongs;
  * `World.IsKin`: the scope of a task lies in that of the task for which it was begun, and what
    that one is doing says what may be left of it.  Every run keeps it so (`IsKin.after`);
  * `World.cancels` are the scopes which a step cancels (`canceled_step`);
  * `IsKin.contains`, `IsKin.beneath_of_contains`: who lies in the scope of a task, and whom a scope
    reaches;
  * `IsKin.outcome?_of_beneath`, `IsKin.rest`: what is left of a task when the one for which it was
    begun has ended or is over.
-/
import TailnetTargets.Proofs.Discovery.FanOut
import TailnetTargets.Proofs.Discovery.Forest

namespace TailnetTargets

/-! ## Scopes and calls -/

namespace Scope

/-- The call from outside to which a scope belongs. -/
def caller? : Scope → Option Nat
  | ⟨0 :: (n + 1) :: _⟩ => some n
  | ⟨(n + 1) :: _⟩ => some n
  | _ => none

theorem contains_iff {s inner : Scope} : s.contains inner ↔ s.path <+: inner.path :=
  List.isPrefixOf_iff_prefix

theorem contains_self (s : Scope) : s.contains s := contains_iff.2 (List.prefix_refl _)

theorem contains_within (s : Scope) (n : Nat) : s.contains (s.within n) :=
  contains_iff.2 (List.prefix_append _ _)

theorem contains_trans {a b c : Scope} (h : a.contains b) (h' : b.contains c) : a.contains c :=
  contains_iff.2 ((contains_iff.1 h).trans (contains_iff.1 h'))

/-- Whatever lies in the scope of a call belongs to that call. -/
theorem caller?_of_contains {s inner : Scope} {n : Nat} (h : s.contains inner)
    (hs : s.caller? = some n) : inner.caller? = some n := by
  obtain ⟨rest, hrest⟩ := contains_iff.1 h
  obtain ⟨path⟩ := s
  obtain ⟨path'⟩ := inner
  cases hrest
  match path with
  | [] => cases hs
  | [0] => cases hs
  | 0 :: 0 :: _ => cases hs
  | 0 :: (k + 1) :: _ => exact hs
  | (k + 1) :: _ => exact hs

theorem isCanceled_of_mem {canceled : List Scope} {c s : Scope} (hc : c ∈ canceled)
    (h : c.contains s) : s.isCanceled canceled :=
  List.any_eq_true.2 ⟨c, hc, h⟩

end Scope

namespace Task

/-- Whether a task is the call of a number which was made from outside. -/
structure IsCall (t : Task) (i : Nat) : Prop where
  parent : t.parent = none
  scope : t.scope = .ofCall i ∨ t.scope = Scope.shutdown.within i

theorem IsCall.caller? {t : Task} {i : Nat} (h : t.IsCall i) : t.scope.caller? = some i := by
  rcases h.scope with h | h <;> rw [h] <;> rfl

theorem IsCall.scope_of_isServed {t : Task} {i : Nat} (h : t.IsCall i) :
    t.scope = if t.isServed then Scope.shutdown.within i else .ofCall i := by
  unfold isServed
  rcases h.scope with h | h <;> rw [h] <;> rfl

/-- What lies in the scope of a call is served only if the call is. -/
theorem IsCall.isServed_of_contains {t : Task} {i : Nat} (h : t.IsCall i) {s : Scope}
    (hs : t.scope.contains s) (hserved : Scope.shutdown.contains s) : t.isServed := by
  rcases h.scope with hscope | hscope
  · rw [hscope] at hs
    obtain ⟨rest, hrest⟩ := Scope.contains_iff.1 hs
    obtain ⟨rest', hrest'⟩ := Scope.contains_iff.1 hserved
    have hhead := congrArg List.head? (hrest.trans hrest'.symm)
    cases hhead
  · rw [isServed, hscope]
    rfl

/-- The scope of a call which is served contains none that a caller provides. -/
theorem IsCall.not_contains_ofCall {t : Task} {k : Nat} (h : t.IsCall k) (hserved : t.isServed)
    (i : Nat) : ¬ t.scope.contains (.ofCall i) := by
  intro hs
  have hscope := h.scope_of_isServed
  rw [if_pos hserved] at hscope
  rw [hscope] at hs
  exact absurd (Scope.contains_iff.1 hs).length_le
    (by simp [Scope.within, Scope.shutdown, Scope.ofCall])

theorem IsCall.getLast? {t : Task} {i : Nat} (h : t.IsCall i) :
    t.scope.path.getLast? = some (i + 1) := by
  rcases h.scope with h | h <;> rw [h] <;> rfl

/-- The last step to a scope in which a call lies is that of the call. -/
theorem IsCall.eq_of_contains {t : Task} {i j : Nat} (h : t.IsCall j) {s : Scope}
    (hlast : s.path.getLast? = some (i + 1)) (hs : s.contains t.scope) : i = j := by
  obtain ⟨path⟩ := s
  rw [Scope.contains_iff] at hs
  rcases h.scope with hscope | hscope
  · rw [hscope, Scope.ofCall] at hs
    rcases List.prefix_cons_iff.1 hs with rfl | ⟨rest, rfl, hrest⟩
    · cases hlast
    · obtain rfl := List.prefix_nil.1 hrest
      exact Nat.succ.inj (Option.some.inj hlast).symm
  · rw [hscope, Scope.within, Scope.shutdown, List.singleton_append] at hs
    rcases List.prefix_cons_iff.1 hs with rfl | ⟨rest, rfl, hrest⟩
    · cases hlast
    · rcases List.prefix_cons_iff.1 hrest with rfl | ⟨last, rfl, hnil⟩
      · cases hlast
      · obtain rfl := List.prefix_nil.1 hnil
        exact Nat.succ.inj (Option.some.inj hlast).symm

theorem mem_closes {t : Task} {i : Nat} {c : Scope} (h : c ∈ t.closes i) :
    c = t.scope.within i ∨ (t.parent = none ∧ t.isServed ∧ c = t.scope) := by
  rw [closes, List.mem_cons] at h
  refine h.imp_right fun h => ?_
  split at h
  · next hserved =>
    rw [Bool.and_eq_true, Option.isNone_iff_eq_none] at hserved
    exact ⟨hserved.1, hserved.2, List.mem_singleton.1 h⟩
  · cases h

/-- What ends with a call belongs to it. -/
theorem IsCall.caller?_of_mem_closes {t : Task} {k : Nat} (h : t.IsCall k) {c : Scope}
    (hc : c ∈ t.closes k) : c.caller? = some k := by
  rcases mem_closes hc with rfl | ⟨-, -, rfl⟩
  · exact Scope.caller?_of_contains (Scope.contains_within _ _) h.caller?
  · exact h.caller?

end Task

namespace World

/-! ## Tasks and those for which they were begun -/

/-- What may be left of a task when the one for which it was begun does something. -/
def MayRest (w : World) (j : Nat) (t : Task) : Phase → Prop
  | .gathering _ first count => first ≤ j ∧ j < first + count
  | .finished _ => t.isOver
  | .dropped => t.isOver ∨ w.isCanceled t.scope
  | .ready _ | .paused _ | .calling _ => False

/-- Calls from outside have scopes of their own, and whoever was begun for a task lies in the scope
    of that task.  It is over when that one has ended, and it is canceled when that one was
    dropped. -/
structure IsKin (w : World) : Prop where
  call : ∀ (i : Nat) (t : Task), w.tasks[i]? = some t → t.parent = none → t.IsCall i
  scope : ∀ (j p : Nat) (t tp : Task), w.tasks[j]? = some t → t.parent = some p →
    w.tasks[p]? = some tp → t.scope = tp.scope.within p
  mayRest : ∀ (j p : Nat) (t tp : Task), w.tasks[j]? = some t → t.parent = some p →
    w.tasks[p]? = some tp → w.MayRest j t tp.phase
  dropped : ∀ (i : Nat) (t : Task), w.tasks[i]? = some t → t.phase = .dropped → t.parent = none

theorem isKin_of_tasks {w : World} (hw : w.tasks = []) : w.IsKin where
  call i t ht := by rw [hw] at ht; cases ht
  scope j p t tp ht := by rw [hw] at ht; cases ht
  mayRest j p t tp ht := by rw [hw] at ht; cases ht
  dropped i t ht := by rw [hw] at ht; cases ht

/-! ## Scopes which are canceled -/

/-- The scopes which a step cancels: those which end with a task if it ends by itself or is dropped,
    and those which are canceled from outside. -/
def cancels (w : World) : Label → List Scope
  | .cancel i =>
    match w.root? i with
    | some t => [t.scope]
    | none => []
  | .drop i =>
    match w.root? i with
    | some t => t.closes i
    | none => []
  | .run i => if w.ends (w.run i) i then w.closesOf i else []
  | .reply i r => if w.ends (w.reply i r) i then w.closesOf i else []
  | .shutDown => [.shutdown]
  | _ => []

theorem canceled_release (w : World) (i : Nat) (t : Task) :
    (w.release i t).canceled = w.canceled := by
  unfold release
  cases t.phase with
  | calling call => exact (leaveDesk_agrees w i call.asked).canceled
  | _ => rfl

theorem closesOf_release {w : World} {i : Nat} {t : Task} (ht : w.tasks[i]? = some t) :
    (w.release i t).closesOf i = t.closes i := by
  rw [closesOf, (release_tasks w i t).2.2]
  split
  · rw [ht]
    rfl
  · rw [List.getElem?_modify_eq, ht]
    rfl

theorem canceled_drop (w : World) (i : Nat) :
    (w.drop i).canceled = w.cancels (.drop i) ++ w.canceled := by
  cases hr : w.root? i with
  | none => simp only [drop_of_none hr, cancels, hr, List.nil_append]
  | some t =>
    simp only [drop_of_root hr, cancels, hr, close, canceled_release,
      closesOf_release (root?_eq_some_iff.1 hr).1]

theorem canceled_step (w : World) (l : Label) :
    (w.step l).canceled = w.cancels l ++ w.canceled := by
  cases l with
  | run i => exact canceled_run w i
  | reply i r => exact canceled_reply w i r
  | drop i => exact canceled_drop w i
  | cancel i =>
    simp only [step, cancelTask, cancels]
    cases w.root? i <;> rfl
  | _ => rfl

theorem isCanceled_step {w : World} {s : Scope} (h : w.isCanceled s) (l : Label) :
    (w.step l).isCanceled s := by
  unfold isCanceled Scope.isCanceled at h ⊢
  rw [canceled_step, List.any_append, h, Bool.or_true]

theorem isCanceled_after {w : World} {s : Scope} (h : w.isCanceled s) (labels : List Label) :
    (w.after labels).isCanceled s := by
  induction labels generalizing w with
  | nil => exact h
  | cons l labels ih => exact ih (isCanceled_step h l)

/-- What was canceled along a run was canceled in one of its steps. -/
theorem mem_canceled_after {w : World} {labels : List Label} {c : Scope} :
    c ∈ (w.after labels).canceled ↔ c ∈ w.canceled ∨
      ∃ before l rest, labels = before ++ l :: rest ∧ c ∈ (w.after before).cancels l := by
  induction labels generalizing w with
  | nil => simp [after]
  | cons l labels ih =>
    rw [after_cons, ih, canceled_step, List.mem_append]
    constructor
    · rintro ((h | h) | ⟨before, l', rest, rfl, h⟩)
      · exact Or.inr ⟨[], l, labels, rfl, h⟩
      · exact Or.inl h
      · exact Or.inr ⟨l :: before, l', rest, rfl, h⟩
    · rintro (h | ⟨before, l', rest, hsplit, h⟩)
      · exact Or.inl (Or.inr h)
      · cases before with
        | nil =>
          obtain ⟨rfl, -⟩ := List.cons.inj hsplit
          exact Or.inl (Or.inl h)
        | cons _ before =>
          obtain ⟨rfl, rfl⟩ := List.cons.inj hsplit
          exact Or.inr ⟨before, l', rest, rfl, h⟩

/-! ## Steps -/

/-- What may be left of a task may be left of it later. -/
theorem MayRest.step {w : World} {j : Nat} {t t' : Task} {phase : Phase}
    (h : w.MayRest j t phase) (hf : t.Follows t') (l : Label) : (w.step l).MayRest j t' phase := by
  have hover : t.isOver → t'.isOver := fun ht => by rw [hf.ended ht]; exact ht
  cases phase with
  | gathering metered first count => exact h
  | finished o => exact hover h
  | dropped =>
    rcases h with h | h
    · exact Or.inl (hover h)
    · rw [← hf.scope] at h
      exact Or.inr (isCanceled_step h l)
  | _ => cases h

/-- What is left of a task after a step of the one for which it was begun. -/
theorem mayRest_step {w : World} {l : Label} {j p : Nat} {t t' tp tp' : Task}
    (ht : w.tasks[j]? = some t) (htp : w.tasks[p]? = some tp)
    (hscope : t.scope = tp.scope.within p) (hrest : w.MayRest j t tp.phase)
    (hf : t.Follows t') (hm : Moves w l p tp tp') : (w.step l).MayRest j t' tp'.phase := by
  cases hm with
  | stays => exact hrest.step hf l
  | calls _ hready => rw [hready] at hrest; cases hrest
  | waits _ hbusy h =>
    cases hph : tp.phase with
    | calling call => rw [hph] at hrest; cases hrest
    | _ => rw [hph] at h; cases h
  | ends _ hbusy h =>
    cases hph : tp.phase with
    | gathering metered first count =>
      -- it has ended because all of those have for which it waited
      rw [hph] at hrest h
      obtain ⟨slots, hslots, rfl⟩ := h
      obtain ⟨hle, hlt⟩ := hrest
      have hall := mapM_eq_some_iff.1 hslots
      have hget := congrArg (·[j - first]?) hall
      have hcount : j - first < count := by omega
      simp only [List.getElem?_map, List.getElem?_take, if_pos hcount, List.getElem?_drop,
        Nat.add_sub_cancel' hle, ht, Option.map_some] at hget
      cases hslot : slots[j - first]? with
      | none => rw [hslot] at hget; cases hget
      | some o =>
        rw [hslot] at hget
        have hover := isOver_of_outcome? (Option.some.inj hget)
        change t'.isOver
        rw [hf.ended hover]
        exact hover
    | finished o => rw [hph] at hbusy; cases hbusy
    | dropped => rw [hph] at hbusy; cases hbusy
    | _ => rw [hph] at hrest; cases hrest
  | drops hl hover hroot =>
    -- it has waited for this one, whose scope is canceled with it
    cases hph : tp.phase with
    | gathering metered first count =>
      refine Or.inr ?_
      have hcancels : tp.scope.within p ∈ (w.step l).canceled := by
        rw [hl, canceled_step, cancels, root?_eq_some_iff.2 ⟨htp, hroot⟩]
        exact List.mem_cons_self ..
      rw [hf.scope, hscope]
      exact Scope.isCanceled_of_mem hcancels (Scope.contains_self _)
    | finished o => simp [Task.isOver, hph] at hover
    | dropped => simp [Task.isOver, hph] at hover
    | _ => rw [hph] at hrest; cases hrest

/-- A call from outside has a scope of its own. -/
theorem isCall_begun {w : World} {l : Label} {j : Nat} {t : Task} (hle : w.tasks.length ≤ j)
    (ht : (w.step l).tasks[j]? = some t) (hroot : t.parent = none) : t.IsCall j := by
  have hnew : ∀ new : Task, (w.tasks ++ [new])[j]? = some t → j = w.tasks.length ∧ t = new := by
    intro new h
    have hlt := (List.getElem?_eq_some_iff.1 h).1
    rw [List.length_append, List.length_singleton] at hlt
    obtain rfl : j = w.tasks.length := by omega
    rw [List.getElem?_concat_length] at h
    exact ⟨rfl, (Option.some.inj h).symm⟩
  rcases begun_step w l hle ht with ⟨-, s, hs⟩ |
    ⟨i, ti, s, rs, metered, members, m, -, -, -, -, -, rfl⟩
  · cases l with
    | call s =>
      obtain ⟨rfl, rfl⟩ := hnew _ ht
      exact ⟨rfl, Or.inl rfl⟩
    | serve s =>
      obtain ⟨rfl, rfl⟩ := hnew _ ht
      exact ⟨rfl, Or.inr rfl⟩
    | _ => cases hs
  · cases hroot

theorem IsKin.step {w : World} (hw : w.IsKin) (hforest : w.IsForest) (l : Label) :
    (w.step l).IsKin := by
  constructor
  · intro i t ht hroot
    rcases Nat.lt_or_ge i w.tasks.length with hlt | hle
    · obtain ⟨u, hu, hf⟩ := task_of_step hlt ht
      have h := hw.call i u hu (hf.parent ▸ hroot)
      exact ⟨hroot, hf.scope ▸ h.scope⟩
    · exact isCall_begun hle ht hroot
  · intro j p t tp ht hp htp
    rcases Nat.lt_or_ge j w.tasks.length with hlt | hle
    · obtain ⟨u, hu, hf⟩ := task_of_step hlt ht
      have hup : u.parent = some p := hf.parent ▸ hp
      obtain ⟨up, hup', hfp⟩ := task_of_step (Nat.lt_trans (hforest.lt j p u hu hup) hlt) htp
      rw [hf.scope, hfp.scope]
      exact hw.scope j p u up hu hup hup'
    · rcases begun_step w l hle ht with ⟨hroot, -⟩ |
        ⟨i, ti, s, rs, metered, members, m, -, hti, -, -, -, rfl⟩
      · rw [hp] at hroot
        cases hroot
      · cases hp
        obtain ⟨u, hu, hf⟩ := follows_step w l hti
        obtain rfl := Option.some.inj (htp.symm.trans hu)
        rw [hf.scope]
  · intro j p t tp ht hp htp
    rcases Nat.lt_or_ge j w.tasks.length with hlt | hle
    · obtain ⟨u, hu, hf⟩ := task_of_step hlt ht
      have hup : u.parent = some p := hf.parent ▸ hp
      have hplt := Nat.lt_trans (hforest.lt j p u hu hup) hlt
      have hup' := List.getElem?_eq_getElem hplt
      obtain ⟨tp', htp', hm⟩ := moves_step l hup'
      obtain rfl := Option.some.inj (htp.symm.trans htp')
      exact mayRest_step hu hup' (hw.scope j p u _ hu hup hup') (hw.mayRest j p u _ hu hup hup')
        hf hm
    · rcases begun_step w l hle ht with ⟨hroot, -⟩ |
        ⟨i, ti, s, rs, metered, members, m, rfl, hti, hs, hc, hm, rfl⟩
      · rw [hp] at hroot
        cases hroot
      · cases hp
        obtain rfl := Option.some.inj (htp.symm.trans (gathering_of_fanOut hti hs hc))
        have hlt := (List.getElem?_eq_some_iff.1 hm).1
        exact ⟨hle, by omega⟩
  · intro i t ht hd
    rcases Nat.lt_or_ge i w.tasks.length with hlt | hle
    · obtain ⟨u, hu, hf⟩ := task_of_step hlt ht
      rw [hf.parent]
      exact (hf.dropped hd).elim (hw.dropped i u hu) id
    · obtain ⟨s, hs⟩ := Task.isReady_iff.1 (task_new_step w l hle ht).1
      rw [hs] at hd
      cases hd

theorem IsKin.after {w : World} (hw : w.IsKin) (hforest : w.IsForest) (labels : List Label) :
    (w.after labels).IsKin := by
  induction labels generalizing w with
  | nil => exact hw
  | cons l labels ih => exact ih (hw.step hforest l) (hforest.step l)

theorem isKin_after {w₀ : World} (hw : w₀.tasks = []) (labels : List Label) :
    (w₀.after labels).IsKin :=
  (isKin_of_tasks hw).after (isForest_of_tasks hw) labels

/-! ## Beneath a task -/

section
variable {w : World} {i j : Nat} {t u : Task}

/-- A task beneath another one lies in its scope, and unless it is that one, in what is canceled
    when that one is dropped. -/
theorem IsKin.contains (hw : w.IsKin) (h : w.Beneath i j) (ht : w.tasks[i]? = some t)
    (hu : w.tasks[j]? = some u) :
    t.scope.contains u.scope ∧ (j ≠ i → (t.scope.within i).contains u.scope) := by
  induction h generalizing u with
  | self =>
    obtain rfl := Option.some.inj (ht.symm.trans hu)
    exact ⟨Scope.contains_self _, fun hne => absurd rfl hne⟩
  | @child p j v hv hp hbelow ih =>
    obtain rfl := Option.some.inj (hu.symm.trans hv)
    cases hbelow with
    | self =>
      rw [hw.scope j i u t hu hp ht]
      exact ⟨Scope.contains_within _ _, fun _ => Scope.contains_self _⟩
    | @child q _ vp hvp hq hbelow =>
      obtain ⟨h, h'⟩ := ih hvp
      have hscope := hw.scope j p u vp hu hp hvp
      have hin : vp.scope.contains u.scope := by
        rw [hscope]
        exact Scope.contains_within _ _
      refine ⟨Scope.contains_trans h hin, fun _ => ?_⟩
      by_cases hpi : p = i
      · subst hpi
        obtain rfl := Option.some.inj (ht.symm.trans hvp)
        rw [hscope]
        exact Scope.contains_self _
      · exact Scope.contains_trans (h' hpi) hin

theorem IsKin.ne_nil (hw : w.IsKin) (hforest : w.IsForest) (hu : w.tasks[j]? = some u) :
    u.scope.path ≠ [] := by
  cases hp : u.parent with
  | none => rcases (hw.call j u hu hp).scope with h | h <;> rw [h] <;> exact List.cons_ne_nil _ _
  | some p =>
    have hplt := Nat.lt_trans (hforest.lt j p u hu hp) (List.getElem?_eq_some_iff.1 hu).1
    rw [hw.scope j p u _ hu hp (List.getElem?_eq_getElem hplt)]
    exact List.concat_ne_nil _ _

/-- The last step to a scope which ends with a task is that of the task, and it is not the first
    one. -/
theorem IsKin.path_of_mem_closes (hw : w.IsKin) (hforest : w.IsForest) (ht : w.tasks[i]? = some t)
    {c : Scope} (hc : c ∈ t.closes i) : c.path.getLast? = some (i + 1) ∧ 2 ≤ c.path.length := by
  rcases Task.mem_closes hc with rfl | ⟨hroot, hserved, rfl⟩
  · have hpos := List.length_pos_iff.2 (hw.ne_nil hforest ht)
    refine ⟨List.getLast?_concat, ?_⟩
    rw [Scope.within, List.length_append, List.length_singleton]
    omega
  · have hscope := (hw.call i t ht hroot).scope_of_isServed
    rw [if_pos hserved] at hscope
    rw [hscope]
    exact ⟨rfl, Nat.le_refl 2⟩

/-- Whoever lies in a scope is beneath the task of its last step. -/
theorem IsKin.beneath_of_contains (hw : w.IsKin) (hforest : w.IsForest) {s : Scope}
    (hlast : s.path.getLast? = some (i + 1)) (hu : w.tasks[j]? = some u)
    (h : s.contains u.scope) : w.Beneath i j := by
  induction j using Nat.strongRecOn generalizing u with
  | ind j ih =>
    cases hp : u.parent with
    | none => exact (hw.call j u hu hp).eq_of_contains hlast h ▸ .self
    | some p =>
      have hplt := hforest.lt j p u hu hp
      have hup := List.getElem?_eq_getElem (Nat.lt_trans hplt (List.getElem?_eq_some_iff.1 hu).1)
      rw [Scope.contains_iff, hw.scope j p u _ hu hp hup, Scope.within, List.prefix_concat_iff] at h
      refine .child hu hp ?_
      rcases h with heq | hprefix
      · rw [heq, List.getLast?_concat] at hlast
        obtain rfl : p = i := Nat.succ.inj (Option.some.inj hlast)
        exact .self
      · exact ih p hplt hup (Scope.contains_iff.2 hprefix)

/-- Nothing was begun for a task which waits for an interface. -/
theorem IsKin.eq_of_calling (hw : w.IsKin) (h : w.Beneath i j) (ht : w.tasks[i]? = some t)
    {call : Call} (hp : t.phase = .calling call) : j = i := by
  induction h with
  | self => rfl
  | @child p j u hu hparent _ ih =>
    rw [ih] at hparent
    have hrest := hw.mayRest j i u t hu hparent ht
    rw [hp] at hrest
    cases hrest

/-- So nobody else lies in a scope of such a task. -/
theorem IsKin.not_contains (hw : w.IsKin) (hforest : w.IsForest) (ht : w.tasks[i]? = some t)
    {call : Call} (hp : t.phase = .calling call) (hu : w.tasks[j]? = some u) (hj : j ≠ i)
    {s : Scope} (hlast : s.path.getLast? = some (i + 1)) : ¬ s.contains u.scope := fun h =>
  hj (hw.eq_of_calling (hw.beneath_of_contains hforest hlast hu h) ht hp)

/-- Whatever was begun for a task which has an outcome has one as well. -/
theorem IsKin.outcome?_of_beneath (hw : w.IsKin) (hforest : w.IsForest) (h : w.Beneath i j)
    (hu : w.tasks[j]? = some u) (ho : (w.outcome? i).isSome) : (w.outcome? j).isSome := by
  induction h generalizing u with
  | self => exact ho
  | @child p j v hv hp hbelow ih =>
    obtain rfl := Option.some.inj (hu.symm.trans hv)
    have hplt := Nat.lt_trans (hforest.lt j p u hu hp) (List.getElem?_eq_some_iff.1 hu).1
    have hvp := List.getElem?_eq_getElem hplt
    have hparent := ih hvp
    have hrest := hw.mayRest j p u _ hu hp hvp
    rw [outcome?, hvp, Option.bind_some, Task.outcome?] at hparent
    rw [outcome?, hu, Option.bind_some, Task.outcome?]
    split at hparent
    · next o ho =>
      rw [ho] at hrest
      have hover : u.isOver := hrest
      unfold Task.isOver at hover
      split at hover
      · next hph => rw [hph]; rfl
      · next hph =>
        have hroot := hw.dropped j u hu hph
        rw [hp] at hroot
        cases hroot
      · cases hover
    · cases hparent

theorem IsKin.isCanceled_of_beneath (hw : w.IsKin) (h : w.Beneath i j) (ht : w.tasks[i]? = some t)
    (hu : w.tasks[j]? = some u) (hc : w.isCanceled t.scope) : w.isCanceled u.scope := by
  obtain ⟨c, hmem, hc⟩ := List.any_eq_true.1 hc
  exact Scope.isCanceled_of_mem hmem (Scope.contains_trans hc (hw.contains h ht hu).1)

/-- What is left of a call which is over is over as well, or it is canceled. -/
theorem IsKin.rest (hw : w.IsKin) (hforest : w.IsForest) (h : w.Beneath i j)
    (ht : w.tasks[i]? = some t) (hu : w.tasks[j]? = some u) (hover : t.isOver) :
    u.isOver ∨ w.isCanceled u.scope := by
  induction h generalizing u with
  | self =>
    obtain rfl := Option.some.inj (ht.symm.trans hu)
    exact Or.inl hover
  | @child p j v hv hp hbelow ih =>
    obtain rfl := Option.some.inj (hu.symm.trans hv)
    have hplt : p < w.tasks.length :=
      Nat.lt_trans (hforest.lt j p u hu hp) (List.getElem?_eq_some_iff.1 hu).1
    have hvp := List.getElem?_eq_getElem hplt
    have hrest := hw.mayRest j p u _ hu hp hvp
    rcases ih hvp with h | h
    · cases hph : w.tasks[p].phase with
      | finished o => rw [hph] at hrest; exact Or.inl hrest
      | dropped => rw [hph] at hrest; exact hrest
      | _ => simp [Task.isOver, hph] at h
    · right
      rw [hw.scope j p u _ hu hp hvp]
      exact Scope.isCanceled_within p h

/-- Nobody beneath a call is dropped but the call itself. -/
theorem IsKin.eq_of_dropped (hw : w.IsKin) (h : w.Beneath i j) (hu : w.tasks[j]? = some u)
    (hd : u.phase = .dropped) : j = i := by
  cases h with
  | self => rfl
  | child hv hp _ =>
    obtain rfl := Option.some.inj (hu.symm.trans hv)
    have hroot := hw.dropped j u hu hd
    rw [hp] at hroot
    cases hroot

end

end World

end TailnetTargets
