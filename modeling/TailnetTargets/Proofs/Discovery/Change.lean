/-
  What a step does.

  * `World.Change`: nothing that caches and tasks would notice, or it begins a task, lets one call
    its source, lets one go on, or drops one (`step_change`);
  * `Task.Moves`: what that means for one task (`moves_step`);
  * `canceled_run`, `canceled_reply`: a task which goes on cancels what ends with it, if it ends,
    and nothing else;
  * `cues_step`: no step changes what scripts say.
-/
import TailnetTargets.Proofs.Discovery.Turn

namespace TailnetTargets

/-- Whether a task does something, but has neither ended nor still to call its source. -/
def Phase.isBusy : Phase → Bool
  | paused _ | calling _ | gathering .. => true
  | _ => false

/-- The source which is called from outside. -/
def Label.source? : Label → Option Source
  | call s | serve s => some s
  | _ => none

namespace Phase

theorem ne_ready_of_isBusy {phase : Phase} (h : phase.isBusy) (s : Source) :
    phase ≠ .ready s := by
  rintro rfl
  cases h

theorem ne_dropped_of_isBusy {phase : Phase} (h : phase.isBusy) : phase ≠ .dropped := by
  rintro rfl
  cases h

end Phase

namespace Task

/-- Whether a task is about to call its source. -/
def isReady (t : Task) : Bool :=
  match t.phase with
  | .ready _ => true
  | _ => false

theorem isReady_iff {t : Task} : t.isReady ↔ ∃ s, t.phase = .ready s := by
  unfold isReady
  split <;> simp_all

theorem isOver_of_isBusy {t : Task} (h : t.phase.isBusy) : t.isOver = false := by
  unfold isOver
  cases hp : t.phase with
  | finished o => rw [hp] at h; cases h
  | dropped => rw [hp] at h; cases h
  | _ => rfl

end Task

namespace World

/-! ## Turns and tasks -/

section
variable {Ends : Outcome → Prop} {Waits : Phase → List Task → Prop} {w w' : World} {i : Nat}

theorem Turn.clock (h : Turn Ends Waits w i w') : w'.clock = w.clock := by
  cases h with
  | wait _ h => exact h.clock
  | finish _ h => exact h.clock

theorem Turn.cues (h : Turn Ends Waits w i w') (id : Nat) :
    (w'.scripts id).cues = (w.scripts id).cues := by
  cases h with
  | wait _ h => exact h.cues id
  | finish _ h => exact h.cues id

/-- What a turn makes of the task whose turn it is. -/
theorem Turn.task_self (h : Turn Ends Waits w i w') {t : Task} (ht : w.tasks[i]? = some t) :
    ∃ phase, w'.tasks[i]? = some { t with phase } ∧
      ((∃ new, Waits phase new ∧ w'.tasks.drop w.tasks.length = new) ∨
        ∃ o, Ends o ∧ phase = .finished (o.coveredBy t.refreshes)) := by
  have hlt : i < w.tasks.length := (List.getElem?_eq_some_iff.1 ht).1
  cases h with
  | @wait phase new hp h =>
    refine ⟨phase, ?_, Or.inl ⟨new, hp, ?_⟩⟩
    · rw [h.tasks, spawn, setPhase, List.getElem?_append_left (by simpa using hlt),
        List.getElem?_modify_eq, ht]
      rfl
    · rw [h.tasks]
      simp [spawn, setPhase]
  | @finish o ho h =>
    refine ⟨_, ?_, Or.inr ⟨o, ho, rfl⟩⟩
    rw [h.tasks, ended, List.getElem?_modify_eq, ht, refreshesOf_eq ht]
    rfl

theorem Turn.task_of_ne (h : Turn Ends Waits w i w') {j : Nat} (hj : j ≠ i)
    (hlt : j < w.tasks.length) : w'.tasks[j]? = w.tasks[j]? := by
  cases h with
  | wait hp h =>
    rw [h.tasks, spawn, setPhase, List.getElem?_append_left (by simpa using hlt),
      List.getElem?_modify_ne _ _ hj.symm]
  | finish ho h =>
    rw [h.tasks, ended, List.getElem?_modify_ne _ _ hj.symm]

/-- The tasks which a turn begins. -/
theorem Turn.task_new (h : Turn Ends Waits w i w') {j : Nat} {t : Task}
    (hle : w.tasks.length ≤ j) (ht : w'.tasks[j]? = some t) :
    ∃ phase new, Waits phase new ∧ new[j - w.tasks.length]? = some t := by
  cases h with
  | @wait phase new hp h =>
    refine ⟨phase, new, hp, ?_⟩
    rw [h.tasks] at ht
    simpa [spawn, setPhase, List.getElem?_append, Nat.not_lt.2 hle] using ht
  | finish ho h =>
    rw [h.tasks] at ht
    have hlt := (List.getElem?_eq_some_iff.1 ht).1
    simp only [ended, List.length_modify] at hlt
    omega

end

theorem SourceWaits.isBusy {w : World} {scope : Scope} {i : Nat} {s : Source} {phase : Phase}
    {new : List Task} (h : w.SourceWaits scope i s phase new) : phase.isBusy := by
  cases s with
  | scripted id => obtain ⟨-, pause, rfl, -⟩ := h; rfl
  | interface asked metered => obtain ⟨-, call, rfl⟩ := h; rfl
  | cached id frequency metered inner => cases h
  | fanOut metered members => obtain ⟨rfl, -⟩ := h; rfl

theorem PhaseWaits.isBusy {p phase : Phase} {new : List Task} (h : PhaseWaits p phase new) :
    phase.isBusy := by
  cases p with
  | calling c => obtain ⟨-, call, rfl⟩ := h; rfl
  | _ => cases h

/-! ## Steps -/

/-- What a step does, as far as caches and tasks notice it. -/
inductive Change (w : World) (l : Label) (w' : World) : Prop where
  | quiet (hclock : w.clock ≤ w'.clock) (hcaches : w'.caches = w.caches)
      (htasks : w'.tasks = w.tasks)
  | begins {t : Task} {s : Source} (hl : l.source? = some s) (hp : t.phase = .ready s)
      (hrs : t.refreshes = []) (hclock : w'.clock = w.clock) (hcaches : w'.caches = w.caches)
      (htasks : w'.tasks = w.tasks ++ [t])
  | enters {i : Nat} {t : Task} {s base : Source} {rs : List Refresh} (hl : l = .run i)
      (ht : w.tasks[i]? = some t) (hp : t.phase = .ready s) (hc : w.Calls s rs base)
      (h : Turn (w.SourceEnds base) (w.SourceWaits t.scope i base) (w.pushAll i rs) i w')
  | goes {i : Nat} {t : Task} (hl : l = .run i ∨ ∃ r, l = .reply i r)
      (ht : w.tasks[i]? = some t) (hp : t.phase.isBusy)
      (h : Turn (w.PhaseEnds t.phase) (PhaseWaits t.phase) w i w')
  | drops {i : Nat} {t : Task} (hl : l = .drop i) (ht : w.tasks[i]? = some t)
      (hover : ¬ t.isOver) (hroot : t.parent = none) (hclock : w'.clock = w.clock)
      (hcaches : w'.caches = w.caches)
      (htasks : w'.tasks = w.tasks.modify i fun t => { t with phase := .dropped })

theorem Change.unchanged {w w' : World} {l : Label} (h : w' = w) : Change w l w' :=
  .quiet (by rw [h]; exact Nat.le_refl _) (by rw [h]) (by rw [h])

theorem isBusy_of_turn {w w' : World} {i : Nat} {phase : Phase}
    (h : Turn (w.PhaseEnds phase) (PhaseWaits phase) w i w') : phase.isBusy := by
  cases phase with
  | paused pause => rfl
  | calling call => rfl
  | gathering metered first count => rfl
  | _ => rcases h with ⟨hp, -⟩ | ⟨ho, -⟩ <;> contradiction

theorem run_change (w : World) (i : Nat) : Change w (.run i) (w.run i) := by
  cases ht : w.tasks[i]? with
  | none =>
    have h : w.run i = w := by unfold run; rw [ht]
    exact .unchanged h
  | some t =>
    by_cases hready : ∃ s, t.phase = .ready s
    · obtain ⟨s, hs⟩ := hready
      have h : w.run i = w.enter i t.scope s := by unfold run; rw [ht]; simp only [hs]
      obtain ⟨rs, base, hc, hturn⟩ := enter_turn i t.scope s w
      exact .enters rfl ht hs hc (h ▸ hturn)
    · rcases run_turn ht fun s hs => hready ⟨s, hs⟩ with h | h
      · exact .unchanged h
      · exact .goes (Or.inl rfl) ht (isBusy_of_turn h) h

theorem reply_change (w : World) (i : Nat) (r : Reply) : Change w (.reply i r) (w.reply i r) := by
  rcases reply_turn (w := w) (i := i) r with h | ⟨t, call, ht, hp, h⟩
  · exact .unchanged h
  · exact .goes (Or.inr ⟨r, rfl⟩) ht (by rw [hp]; rfl) (by rw [hp]; exact h)

theorem cancelTask_change (w : World) (i : Nat) : Change w (.cancel i) (w.cancelTask i) := by
  unfold cancelTask
  split <;> exact .quiet (Nat.le_refl _) rfl rfl

theorem release_tasks (w : World) (i : Nat) (t : Task) :
    (w.release i t).clock = w.clock ∧ (w.release i t).caches = w.caches ∧
      (w.release i t).tasks =
        if t.isOver then w.tasks else w.tasks.modify i fun t => { t with phase := .dropped } := by
  unfold release Task.isOver
  cases t.phase with
  | calling call =>
    have h := leaveDesk_agrees w i call.asked
    exact ⟨h.clock, h.caches, congrArg (List.modify · i _) h.tasks⟩
  | _ => exact ⟨rfl, rfl, rfl⟩

theorem drop_change (w : World) (i : Nat) : Change w (.drop i) (w.drop i) := by
  cases hr : w.root? i with
  | none => exact .unchanged (drop_of_none hr)
  | some t =>
    obtain ⟨ht, hroot⟩ := root?_eq_some_iff.1 hr
    obtain ⟨hclock, hcaches, htasks⟩ := release_tasks w i t
    rw [drop_of_root hr]
    by_cases hover : t.isOver
    · exact .quiet (Nat.le_of_eq (congrArg Instant.nanos hclock.symm)) hcaches
        (htasks.trans (if_pos hover))
    · exact .drops rfl ht hover hroot hclock hcaches (htasks.trans (if_neg hover))

theorem step_change (w : World) (l : Label) : Change w l (w.step l) := by
  cases l with
  | call s => exact .begins rfl rfl rfl rfl rfl rfl
  | serve s => exact .begins rfl rfl rfl rfl rfl rfl
  | run i => exact run_change w i
  | reply i r => exact reply_change w i r
  | cancel i => exact cancelTask_change w i
  | drop i => exact drop_change w i
  | shutDown => exact .quiet (Nat.le_refl _) rfl rfl
  | advance d => exact .quiet (Nat.le_add_right ..) rfl rfl
  | age d => exact .quiet (Nat.le_refl _) rfl rfl

theorem pushAll_task_self {w : World} {i : Nat} {t : Task} (rs : List Refresh)
    (ht : w.tasks[i]? = some t) :
    (w.pushAll i rs).tasks[i]? = some { t with refreshes := rs ++ t.refreshes } := by
  rw [pushAll, List.getElem?_modify_eq, ht]
  rfl

theorem pushAll_task_of_ne (w : World) {i j : Nat} (rs : List Refresh) (hj : j ≠ i) :
    (w.pushAll i rs).tasks[j]? = w.tasks[j]? :=
  List.getElem?_modify_ne _ _ hj.symm

theorem pushAll_length (w : World) (i : Nat) (rs : List Refresh) :
    (w.pushAll i rs).tasks.length = w.tasks.length := List.length_modify ..

/-! ## One task -/

/-- What a step makes of a task. -/
inductive Moves (w : World) (l : Label) (i : Nat) (t : Task) : Task → Prop where
  | stays : Moves w l i t t
  | calls {s base : Source} {rs : List Refresh} {phase : Phase} (hl : l = .run i)
      (hp : t.phase = .ready s) (hc : w.Calls s rs base)
      (h : (∃ new, w.SourceWaits t.scope i base phase new) ∨
        ∃ o, w.SourceEnds base o ∧ phase = .finished (o.coveredBy (rs ++ t.refreshes))) :
      Moves w l i t { t with refreshes := rs ++ t.refreshes, phase }
  | waits {phase : Phase} {new : List Task} (hl : l = .run i ∨ ∃ r, l = .reply i r)
      (hp : t.phase.isBusy) (h : PhaseWaits t.phase phase new) : Moves w l i t { t with phase }
  | ends {o : Outcome} (hl : l = .run i ∨ ∃ r, l = .reply i r) (hp : t.phase.isBusy)
      (h : w.PhaseEnds t.phase o) :
      Moves w l i t { t with phase := .finished (o.coveredBy t.refreshes) }
  | drops (hl : l = .drop i) (hover : ¬ t.isOver) (hroot : t.parent = none) :
      Moves w l i t { t with phase := .dropped }

theorem moves_step {w : World} (l : Label) {i : Nat} {t : Task} (ht : w.tasks[i]? = some t) :
    ∃ t', (w.step l).tasks[i]? = some t' ∧ Moves w l i t t' := by
  have hlt : i < w.tasks.length := (List.getElem?_eq_some_iff.1 ht).1
  rcases step_change w l with ⟨-, -, htasks⟩ | ⟨-, -, -, -, -, htasks⟩ |
    @⟨j, tj, s, base, rs, hl, htj, hp, hc, h⟩ | @⟨j, tj, hl, htj, hp, h⟩ |
    @⟨j, tj, hl, htj, hover, hroot, -, -, htasks⟩
  · exact ⟨t, by rw [htasks, ht], .stays⟩
  · exact ⟨t, by rw [htasks, List.getElem?_append_left hlt, ht], .stays⟩
  · by_cases hij : i = j
    · subst hij
      obtain rfl := Option.some.inj (ht.symm.trans htj)
      obtain ⟨phase, h', hphase⟩ := h.task_self (pushAll_task_self rs ht)
      refine ⟨_, h', .calls hl hp hc ?_⟩
      rcases hphase with ⟨new, hw, -⟩ | ho
      · exact Or.inl ⟨new, hw⟩
      · exact Or.inr ho
    · rw [h.task_of_ne hij (by rwa [pushAll_length]), pushAll_task_of_ne w rs hij]
      exact ⟨t, ht, .stays⟩
  · by_cases hij : i = j
    · subst hij
      obtain rfl := Option.some.inj (ht.symm.trans htj)
      obtain ⟨phase, h', ⟨new, hw, -⟩ | ⟨o, ho, rfl⟩⟩ := h.task_self ht
      · exact ⟨_, h', .waits hl hp hw⟩
      · exact ⟨_, h', .ends hl hp ho⟩
    · rw [h.task_of_ne hij hlt]
      exact ⟨t, ht, .stays⟩
  · by_cases hij : i = j
    · subst hij
      obtain rfl := Option.some.inj (ht.symm.trans htj)
      exact ⟨_, by rw [htasks, List.getElem?_modify_eq, ht]; rfl, .drops hl hover hroot⟩
    · exact ⟨t, by rw [htasks, List.getElem?_modify_ne _ _ (Ne.symm hij), ht], .stays⟩

/-! ## What is canceled -/

/-- A turn cancels what ends with the task whose turn it is, if that ends, and nothing else. -/
theorem Turn.canceled {Ends : Outcome → Prop} {Waits : Phase → List Task → Prop} {w w' : World}
    {i : Nat} (h : Turn Ends Waits w i w') (hwaits : ∀ phase new, Waits phase new → phase.isBusy)
    {t : Task} (ht : w.tasks[i]? = some t) :
    w'.canceled = (if w'.isOver i then w.closesOf i else []) ++ w.canceled := by
  have hlt : i < w.tasks.length := (List.getElem?_eq_some_iff.1 ht).1
  cases h with
  | @wait phase new hp h =>
    have hover : w'.isOver i = false := by
      rw [isOver, h.tasks, spawn, setPhase, List.getElem?_append_left (by simpa using hlt),
        List.getElem?_modify_eq, ht]
      exact Task.isOver_of_isBusy (t := { t with phase }) (hwaits phase new hp)
    rw [hover, if_neg Bool.false_ne_true]
    exact h.canceled
  | @finish o ho h =>
    have hover : w'.isOver i = true := by
      rw [isOver, h.tasks, ended, List.getElem?_modify_eq, ht]
      rfl
    rw [hover, if_pos rfl]
    exact h.canceled

/-- Whether a task ends between two worlds. -/
def ends (w w' : World) (i : Nat) : Bool := !w.isOver i && w'.isOver i

/-- A task which goes on takes a turn, if it does anything at all. -/
theorem run_isTurn (w : World) (i : Nat) :
    w.run i = w ∨ ∃ t, w.tasks[i]? = some t ∧ t.isOver = false ∧ ∃ rs Ends Waits,
      (∀ phase new, Waits phase new → phase.isBusy) ∧
        Turn Ends Waits (w.pushAll i rs) i (w.run i) := by
  cases ht : w.tasks[i]? with
  | none => exact Or.inl (by unfold run; rw [ht])
  | some t =>
    by_cases hready : t.isReady
    · obtain ⟨s, hs⟩ := Task.isReady_iff.1 hready
      have h : w.run i = w.enter i t.scope s := by unfold run; rw [ht]; simp only [hs]
      obtain ⟨rs, base, -, hturn⟩ := enter_turn i t.scope s w
      rw [h]
      exact Or.inr ⟨t, rfl, by rw [Task.isOver, hs], rs, _, _, fun _ _ => SourceWaits.isBusy, hturn⟩
    · rcases run_turn ht fun s hs => hready (Task.isReady_iff.2 ⟨s, hs⟩) with h | h
      · exact Or.inl h
      · exact Or.inr ⟨t, rfl, Task.isOver_of_isBusy (isBusy_of_turn h), [], _, PhaseWaits t.phase,
          fun _ _ => PhaseWaits.isBusy, by rw [pushAll_nil]; exact h⟩

theorem canceled_of_turn {Ends : Outcome → Prop} {Waits : Phase → List Task → Prop}
    {w w' : World} {i : Nat} {t : Task} {rs : List Refresh} (ht : w.tasks[i]? = some t)
    (hover : t.isOver = false) (hwaits : ∀ phase new, Waits phase new → phase.isBusy)
    (h : Turn Ends Waits (w.pushAll i rs) i w') :
    w'.canceled = (if w.ends w' i then w.closesOf i else []) ++ w.canceled := by
  have hruns : w.isOver i = false := by rw [isOver, ht]; exact hover
  have hpushed := pushAll_task_self rs ht
  have hcloses : (w.pushAll i rs).closesOf i = w.closesOf i := by
    rw [closesOf_eq hpushed, closesOf_eq ht]
    rfl
  rw [h.canceled hwaits hpushed, hcloses, ends, hruns]
  rfl

theorem ends_self (w : World) (i : Nat) : w.ends w i = false := by
  unfold ends
  cases w.isOver i <;> rfl

/-- A task which goes on cancels what ends with it if it ends, and nothing else. -/
theorem canceled_run (w : World) (i : Nat) : (w.run i).canceled =
    (if w.ends (w.run i) i then w.closesOf i else []) ++ w.canceled := by
  rcases run_isTurn w i with h | ⟨t, ht, hover, rs, Ends, Waits, hwaits, h⟩
  · rw [h, ends_self]
    rfl
  · exact canceled_of_turn ht hover hwaits h

theorem canceled_reply (w : World) (i : Nat) (r : Reply) : (w.reply i r).canceled =
    (if w.ends (w.reply i r) i then w.closesOf i else []) ++ w.canceled := by
  rcases reply_turn (w := w) (i := i) r with h | ⟨t, call, ht, hp, h⟩
  · rw [h, ends_self]
    rfl
  · have hturn : Turn Outcome.IsPlain IsCalling (w.pushAll i []) i (w.reply i r) := by
      rw [pushAll_nil]
      exact h
    refine canceled_of_turn ht (by rw [Task.isOver, hp]) (fun phase new hwaits => ?_) hturn
    obtain ⟨-, call', rfl⟩ := hwaits
    rfl

/-- Whatever lies in none of the scopes which end with a task is canceled after its turn if it was
    before. -/
theorem isCanceled_of_closes {w w' : World} {i : Nat} {s : Scope}
    (h : w'.canceled = (if w.ends w' i then w.closesOf i else []) ++ w.canceled)
    (hs : ∀ c ∈ w.closesOf i, ¬ c.contains s) : w'.isCanceled s = w.isCanceled s := by
  rw [isCanceled, h]
  split
  · exact Scope.isCanceled_append_of_not_contains hs
  · rfl

/-! ## What stays as it is -/

theorem cues_step (w : World) (l : Label) (id : Nat) :
    ((w.step l).scripts id).cues = (w.scripts id).cues := by
  cases l with
  | run i =>
    rcases run_isTurn w i with h | ⟨t, -, -, rs, Ends, Waits, -, h⟩
    · exact congrArg (fun v : World => (v.scripts id).cues) h
    · exact h.cues id
  | reply i r =>
    rcases reply_turn (w := w) (i := i) r with h | ⟨t, call, ht, hp, h⟩
    · exact congrArg (fun v : World => (v.scripts id).cues) h
    · exact h.cues id
  | cancel i =>
    simp only [step, cancelTask]
    split <;> rfl
  | drop i =>
    have hrelease : ∀ t, ((w.release i t).scripts id).cues = (w.scripts id).cues := by
      intro t
      unfold release
      cases t.phase with
      | calling call => exact (leaveDesk_agrees w i call.asked).cues id
      | _ => rfl
    simp only [step, drop]
    split
    · next t _ => exact hrelease t
    · rfl
  | _ => rfl

end World

end TailnetTargets
