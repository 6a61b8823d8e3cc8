/-
  Calls through caches, and the same calls without them.

  * `World.Wraps`: in the second world caches wait for a task which do not in the first one, and
    something else may have been counted or told;
  * `World.Meets`: that is so, or the task has ended in both worlds, in the second one covered by
    what those caches held.  Whatever happens keeps it so (`Meets.after`);
  * `World.direct?`: how a source has ended which a task calls with nothing in between, and
    `World.EndsAt`: when it ends;
  * `outcome?_of_calls`: a call which goes on through caches as the call of another source ends when
    that does, and as that does, covered by what the caches held (`outcome?_of_expired`), which is
    what was committed to them last (`previous_of_expired`).
-/
import Mathlib.Data.List.Induction
import TailnetTargets.Proofs.Discovery.FanOut

namespace TailnetTargets

/-! ## Failures which are covered -/

namespace Failure

theorem ne_stale (f : Failure) (devices : List Device) : f ≠ .stale devices f := by
  intro h
  have := congrArg sizeOf h
  simp at this

theorem covered_eq_stale_iff {f : Failure} {previous : Option (List Device)}
    {devices : List Device} : f.covered previous = .stale devices f ↔ previous = some devices := by
  cases previous with
  | none => simpa [covered] using f.ne_stale devices
  | some ds => simp [covered]

end Failure

namespace Outcome

theorem covered_injective (previous : Option (List Device)) :
    Function.Injective fun o : Outcome => o.covered previous := by
  intro a b h
  cases a <;> cases b <;> cases previous <;> simp_all [covered, Failure.covered]

theorem coveredBy_injective (rs : List Refresh) :
    Function.Injective fun o : Outcome => o.coveredBy rs := by
  induction rs with
  | nil => exact fun a b h => h
  | cons r rs ih => exact fun a b h => covered_injective r.previous (ih h)

end Outcome

namespace World

/-- In the second world the caches `rs` wait for a task which do not in the first one, outside of
    those which wait there. -/
structure Wraps (i : Nat) (rs : List Refresh) (v w : World) : Prop where
  clock : w.clock = v.clock
  tokenClock : w.tokenClock = v.tokenClock
  caches : w.caches = v.caches
  scripts : w.scripts = v.scripts
  desks : w.desks = v.desks
  canceled : w.canceled = v.canceled
  tasks : w.tasks = v.tasks.modify i fun t => { t with refreshes := t.refreshes ++ rs }
  lt : i < v.tasks.length
  runs : v.outcome? i = none

/-- A task has the same caches waiting for it but for those, or it has ended in both worlds. -/
inductive Meets (i : Nat) (rs : List Refresh) (v w : World) : Prop where
  | runs (h : Wraps i rs v w)
  | ends {o : Outcome} (hv : v.outcome? i = some o) (hw : w.outcome? i = some (o.coveredBy rs))

section
variable {i : Nat} {rs : List Refresh} {v w : World}

/-! ## Parts of the world -/

theorem Wraps.length (h : Wraps i rs v w) : w.tasks.length = v.tasks.length := by
  rw [h.tasks, List.length_modify]

theorem Wraps.isCanceled (h : Wraps i rs v w) (s : Scope) : w.isCanceled s = v.isCanceled s := by
  rw [World.isCanceled, h.canceled]
  rfl

theorem Wraps.task (h : Wraps i rs v w) (j : Nat) :
    w.tasks[j]? = v.tasks[j]?.map fun t =>
      if i = j then { t with refreshes := t.refreshes ++ rs } else t := by
  rw [h.tasks, List.getElem?_modify]
  rfl

/-- A task differs in the two worlds by the caches which wait for it only. -/
theorem Wraps.task_cases (h : Wraps i rs v w) (j : Nat) :
    (v.tasks[j]? = none ∧ w.tasks[j]? = none) ∨ ∃ (t : Task) (waiting : List Refresh),
      v.tasks[j]? = some t ∧ w.tasks[j]? = some { t with refreshes := waiting } := by
  rw [h.task]
  cases v.tasks[j]? with
  | none => exact Or.inl ⟨rfl, rfl⟩
  | some t =>
    rw [Option.map_some]
    split <;> exact Or.inr ⟨t, _, rfl, rfl⟩

theorem Wraps.outcome? (h : Wraps i rs v w) (j : Nat) : w.outcome? j = v.outcome? j := by
  rw [World.outcome?, World.outcome?]
  rcases h.task_cases j with ⟨hv, hw⟩ | ⟨t, waiting, hv, hw⟩
  · rw [hv, hw]
  · rw [hv, hw]
    rfl

theorem Wraps.outcomes? (h : Wraps i rs v w) (first count : Nat) :
    w.outcomes? first count = v.outcomes? first count := by
  have hmap : w.tasks.map Task.outcome? = v.tasks.map Task.outcome? := by
    refine List.ext_getElem? fun j => ?_
    rw [List.getElem?_map, List.getElem?_map]
    rcases h.task_cases j with ⟨hv, hw⟩ | ⟨t, waiting, hv, hw⟩
    · rw [hv, hw]
    · rw [hv, hw]
      rfl
  refine Option.ext fun slots => ?_
  simp only [World.outcomes?, mapM_eq_some_iff, List.map_take, List.map_drop, hmap]

theorem Wraps.refreshesOf_self (h : Wraps i rs v w) :
    w.refreshesOf i = v.refreshesOf i ++ rs := by
  rw [World.refreshesOf, World.refreshesOf, h.task, List.getElem?_eq_getElem h.lt]
  simp

theorem Wraps.refreshesOf_of_ne (h : Wraps i rs v w) {j : Nat} (hj : i ≠ j) :
    w.refreshesOf j = v.refreshesOf j := by
  rw [World.refreshesOf, World.refreshesOf, h.task]
  simp [hj]

theorem Wraps.count (h : Wraps i rs v w) (metered metered' : Bool) (events events' : List Event) :
    Wraps i rs (v.count metered events) (w.count metered' events') := by
  unfold World.count
  split <;> split <;>
    exact ⟨h.clock, h.tokenClock, h.caches, h.scripts, h.desks, h.canceled, h.tasks, h.lt, h.runs⟩

theorem Wraps.tell (h : Wraps i rs v w) (line line' : LogLine) :
    Wraps i rs (v.tell line) (w.tell line') :=
  ⟨h.clock, h.tokenClock, h.caches, h.scripts, h.desks, h.canceled, h.tasks, h.lt, h.runs⟩

theorem Wraps.send (h : Wraps i rs v w) (j : Nat) (asked : Interface) (request : Request) :
    Wraps i rs (v.send j asked request) (w.send j asked request) :=
  ⟨h.clock, h.tokenClock, h.caches, h.scripts, h.desks, h.canceled, h.tasks, h.lt, h.runs⟩

theorem Wraps.setDesk (h : Wraps i rs v w) (id : Nat) (desk : TokenDesk) :
    Wraps i rs (v.setDesk id desk) (w.setDesk id desk) :=
  ⟨h.clock, h.tokenClock, h.caches, h.scripts, congrArg (setAt · id desk) h.desks, h.canceled,
    h.tasks, h.lt, h.runs⟩

theorem Wraps.leaveDesk (h : Wraps i rs v w) (j : Nat) (asked : Interface) :
    Wraps i rs (v.leaveDesk j asked) (w.leaveDesk j asked) := by
  cases asked with
  | localApi socket => exact h
  | publicApi id api =>
    simp only [World.leaveDesk, h.desks]
    exact h.setDesk id _

theorem Wraps.cancel (h : Wraps i rs v w) (s : Scope) : Wraps i rs (v.cancel s) (w.cancel s) :=
  ⟨h.clock, h.tokenClock, h.caches, h.scripts, h.desks, congrArg (s :: ·) h.canceled, h.tasks,
    h.lt, h.runs⟩

theorem Wraps.closesOf (h : Wraps i rs v w) (j : Nat) : w.closesOf j = v.closesOf j := by
  rw [World.closesOf, World.closesOf]
  rcases h.task_cases j with ⟨hv, hw⟩ | ⟨t, waiting, hv, hw⟩
  · rw [hv, hw]
  · rw [hv, hw]
    rfl

theorem Wraps.close (h : Wraps i rs v w) (j : Nat) : Wraps i rs (v.close j) (w.close j) := by
  refine ⟨h.clock, h.tokenClock, h.caches, h.scripts, h.desks, ?_, h.tasks, h.lt, h.runs⟩
  rw [World.close, World.close, h.closesOf, h.canceled]

theorem Wraps.setScripts (h : Wraps i rs v w) (scripts : Nat → Script) :
    Wraps i rs { v with scripts } { w with scripts } :=
  ⟨h.clock, h.tokenClock, h.caches, rfl, h.desks, h.canceled, h.tasks, h.lt, h.runs⟩

/-- A task is changed alike in the two worlds by what neither looks at the caches which wait for it
    nor ends it. -/
theorem Wraps.modify (h : Wraps i rs v w) (j : Nat) {f : Task → Task}
    (hf : ∀ t, f { t with refreshes := t.refreshes ++ rs } =
      { f t with refreshes := (f t).refreshes ++ rs })
    (hends : j = i → ∀ t, t.outcome? = none → (f t).outcome? = none) :
    Wraps i rs { v with tasks := v.tasks.modify j f } { w with tasks := w.tasks.modify j f } where
  clock := h.clock
  tokenClock := h.tokenClock
  caches := h.caches
  scripts := h.scripts
  desks := h.desks
  canceled := h.canceled
  tasks := by
    simp only [h.tasks]
    by_cases hij : i = j
    · rw [hij, List.modify_modify_eq, List.modify_modify_eq]
      exact congrArg (v.tasks.modify j) (funext hf)
    · exact List.modify_modify_ne _ _ _ hij
  lt := by simpa using h.lt
  runs := by
    have hruns := h.runs
    rw [World.outcome?, List.getElem?_eq_getElem h.lt, Option.bind_some] at hruns
    rw [World.outcome?, List.getElem?_modify, List.getElem?_eq_getElem h.lt]
    by_cases hji : j = i
    · simpa [hji] using hends hji _ hruns
    · simpa [hji] using hruns

theorem Wraps.setPhase (h : Wraps i rs v w) (j : Nat) {phase : Phase}
    (hp : j = i → ∀ o, phase ≠ .finished o) :
    Wraps i rs (v.setPhase j phase) (w.setPhase j phase) := by
  refine h.modify j (fun _ => rfl) fun hji t _ => ?_
  unfold Task.outcome?
  split
  · next o ho => exact absurd ho (hp hji o)
  · rfl

theorem Wraps.pushRefresh (h : Wraps i rs v w) (j : Nat) (r : Refresh) :
    Wraps i rs (v.pushRefresh j r) (w.pushRefresh j r) :=
  h.modify j (fun _ => rfl) fun _ _ ht => ht

theorem Wraps.spawn (h : Wraps i rs v w) (new : List Task) :
    Wraps i rs (v.spawn new) (w.spawn new) where
  clock := h.clock
  tokenClock := h.tokenClock
  caches := h.caches
  scripts := h.scripts
  desks := h.desks
  canceled := h.canceled
  tasks := by
    simp only [World.spawn, h.tasks]
    refine List.ext_getElem? fun j => ?_
    rw [List.getElem?_modify, List.getElem?_append, List.getElem?_append, List.length_modify,
      List.getElem?_modify]
    split
    · rfl
    · next hj =>
      have hij : i ≠ j := fun hij => hj (hij ▸ h.lt)
      simp [hij]
  lt := by
    have := h.lt
    simp only [World.spawn, List.length_append]
    omega
  runs := by
    rw [World.outcome?, World.spawn, List.getElem?_append_left h.lt]
    exact h.runs

/-! ## The end of a task -/

theorem Wraps.settle (h : Wraps i rs v w) (waiting : List Refresh) (o : Outcome) :
    Wraps i rs (v.settle waiting o).1 (w.settle waiting o).1 := by
  induction waiting generalizing v w o with
  | nil => exact h
  | cons r waiting ih =>
    have hone : Wraps i rs (v.settleOne r o).1 (w.settleOne r o).1 := by
      cases o with
      | found devices =>
        have hcaches : setAt w.caches r.cache (.commit w.clock r.frequency devices) =
            setAt v.caches r.cache (.commit v.clock r.frequency devices) := by
          rw [h.clock, h.caches]
        exact ⟨h.clock, h.tokenClock, hcaches, h.scripts, h.desks, h.canceled, h.tasks, h.lt,
          h.runs⟩
      | failed failure => exact h.count _ _ _ _
      | panicked text => exact h
    have heq : (w.settleOne r o).2 = (v.settleOne r o).2 := by
      rw [settleOne_snd, settleOne_snd]
    simp only [World.settle]
    rw [heq]
    exact ih hone _

theorem outcome?_finish {w : World} {j : Nat} (hj : j < w.tasks.length) (o : Outcome) :
    (w.finish j o).outcome? j = some (o.coveredBy (w.refreshesOf j)) := by
  rw [World.outcome?, (finish_agrees w j o).tasks, ended, List.getElem?_modify_eq,
    List.getElem?_eq_getElem hj]
  rfl

theorem Wraps.finish (h : Wraps i rs v w) (j : Nat) (o : Outcome) :
    Meets i rs (v.finish j o) (w.finish j o) := by
  by_cases hij : i = j
  · -- it is the task itself which ends: the outer caches cover what the others leave
    subst hij
    refine .ends (outcome?_finish h.lt o) ?_
    rw [outcome?_finish (h.length ▸ h.lt), h.refreshesOf_self, Outcome.coveredBy,
      List.foldl_append]
    rfl
  · have hrs := h.refreshesOf_of_ne hij
    refine .runs ?_
    change Wraps i rs
      (((v.settle (v.refreshesOf j) o).1.setPhase j
        (.finished (v.settle (v.refreshesOf j) o).2)).close j)
      (((w.settle (w.refreshesOf j) o).1.setPhase j
        (.finished (w.settle (w.refreshesOf j) o).2)).close j)
    rw [hrs, settle_snd, settle_snd]
    exact ((h.settle _ o).setPhase j fun hji => absurd hji.symm hij).close j

/-! ## Calls of interfaces -/

theorem Wraps.endCall (h : Wraps i rs v w) (j : Nat) (call : Call)
    (result : Except Failure (List Device)) :
    Meets i rs (v.endCall j call result) (w.endCall j call result) :=
  (((h.leaveDesk j call.asked).count _ _ _ _).tell _ _).finish j _

theorem Wraps.ask (h : Wraps i rs v w) (j : Nat) (call : Call) (errand : Errand)
    (request : Except RequestFault Request) :
    Meets i rs (v.ask j call errand request) (w.ask j call errand request) := by
  have hcount := h.count call.metered call.metered [.request call.asked.endpoint]
    [.request call.asked.endpoint]
  cases request with
  | error fault => exact hcount.endCall j call _
  | ok request =>
    simp only [World.ask, hcount.clock]
    exact .runs ((hcount.send j call.asked request).setPhase j (by simp))

theorem Wraps.askWith (h : Wraps i rs v w) (j : Nat) (call : Call) (api : PublicApi)
    (token : String) : Meets i rs (v.askWith j call api token) (w.askWith j call api token) :=
  (h.leaveDesk j call.asked).ask j call .devices _

theorem Wraps.takeTurn (h : Wraps i rs v w) (j : Nat) (call : Call) :
    Meets i rs (v.takeTurn j call) (w.takeTurn j call) := by
  unfold World.takeTurn
  simp only [h.desks, h.tokenClock]
  split
  · exact .runs h
  · split
    · split
      · exact h.askWith j call _ _
      · exact h.ask j call .grant _
      · exact .runs h
    · exact .runs h

theorem Wraps.beginCall (h : Wraps i rs v w) (j : Nat) (call : Call) :
    Meets i rs (v.beginCall j call) (w.beginCall j call) := by
  unfold World.beginCall
  simp only [h.desks]
  split
  · exact h.ask j call .devices _
  · split
    · exact h.ask j call .devices _
    · exact ((h.setDesk _ _).setPhase j (by simp)).takeTurn j call

theorem Wraps.handle (h : Wraps i rs v w) (j : Nat) (call : Call) (r : Reply) (errand : Errand) :
    Meets i rs (v.handle j call r errand) (w.handle j call r errand) := by
  cases errand with
  | devices => exact h.endCall j call _
  | grant =>
    simp only [World.handle, h.desks, h.tokenClock]
    split
    · exact .runs h
    · split
      · exact h.endCall j call _
      · exact ((h.setDesk _ _).tell _ _).askWith j call _ _

/-! ## Tasks -/

theorem Wraps.perform (h : Wraps i rs v w) (j id : Nat) :
    Meets i rs (v.perform j id) (w.perform j id) := by
  have hcalled := h.setScripts
    (setAt v.scripts id { v.scripts id with calls := (v.scripts id).calls + 1 })
  unfold World.perform
  simp only [h.scripts]
  split
  · exact hcalled.finish j _
  · next delay _ =>
    have halarm : w.clock.alarm delay = v.clock.alarm delay := by rw [h.clock]
    simp only [halarm]
    exact .runs (hcalled.setPhase j (by simp))

theorem Wraps.interrupt (h : Wraps i rs v w) (j id : Nat) :
    Meets i rs (v.interrupt j id) (w.interrupt j id) := by
  unfold World.interrupt
  simp only [h.scripts]
  exact (h.setScripts _).finish j _

theorem Wraps.enter (j : Nat) (scope : Scope) : ∀ (s : Source) {v w : World},
    Wraps i rs v w → Meets i rs (v.enter j scope s) (w.enter j scope s)
  | .scripted id, v, w, h => h.perform j id
  | .interface asked metered, v, w, h => by
    simp only [World.enter, h.isCanceled, h.tokenClock]
    split
    · exact h.endCall j _ _
    · exact h.beginCall j _
  | .cached id frequency metered inner, v, w, h => by
    simp only [World.enter, h.caches, h.clock]
    split
    · exact (h.count _ _ _ _).finish j _
    · exact Wraps.enter j scope inner ((h.count _ _ _ _).pushRefresh j _)
  | .fanOut metered members, v, w, h => by
    have hcount := h.count metered metered [.fanOut] [.fanOut]
    simp only [World.enter, hcount.length]
    exact .runs ((hcount.setPhase j (by simp)).spawn (memberTasks scope j members))

theorem Wraps.run (h : Wraps i rs v w) (j : Nat) : Meets i rs (v.run j) (w.run j) := by
  unfold World.run
  rcases h.task_cases j with ⟨hv, hw⟩ | ⟨t, waiting, hv, hw⟩
  · rw [hv, hw]
    exact .runs h
  · simp only [hv, hw]
    cases t.phase with
    | ready s => exact Wraps.enter j t.scope s h
    | paused pause =>
      simp only [h.isCanceled, h.clock]
      split
      · exact h.interrupt j _
      · split
        · exact h.finish j _
        · exact .runs h
    | calling call =>
      simp only [h.isCanceled, h.clock]
      split
      · exact h.endCall j call _
      · split
        · exact h.takeTurn j call
        · split
          · exact h.endCall j call _
          · exact .runs h
    | gathering metered first count =>
      simp only [h.outcomes?]
      split
      · exact (h.count _ _ _ _).finish j _
      · exact .runs h
    | finished o => exact .runs h
    | dropped => exact .runs h

theorem Wraps.reply (h : Wraps i rs v w) (j : Nat) (r : Reply) :
    Meets i rs (v.reply j r) (w.reply j r) := by
  unfold World.reply
  rcases h.task_cases j with ⟨hv, hw⟩ | ⟨t, waiting, hv, hw⟩
  · rw [hv, hw]
    exact .runs h
  · rw [hv, hw]
    obtain ⟨scope, parent, refreshes, phase⟩ := t
    cases phase with
    | calling call =>
      simp only [h.isCanceled]
      split
      · exact .runs h
      · split
        · exact h.endCall j call _
        · exact h.handle j call r _
    | _ => exact .runs h

/-! ## Steps -/

theorem Wraps.root? (h : Wraps i rs v w) (j : Nat) :
    (v.root? j = none ∧ w.root? j = none) ∨ ∃ t t' : Task, v.root? j = some t ∧
      w.root? j = some t' ∧ t'.scope = t.scope ∧ t'.phase = t.phase := by
  unfold World.root?
  rcases h.task_cases j with ⟨hv, hw⟩ | ⟨t, waiting, hv, hw⟩
  · rw [hv, hw]
    exact Or.inl ⟨rfl, rfl⟩
  · simp only [hv, hw, Option.filter_some]
    split
    · exact Or.inr ⟨t, _, rfl, rfl, rfl, rfl⟩
    · exact Or.inl ⟨rfl, rfl⟩

theorem Wraps.release (h : Wraps i rs v w) (j : Nat) {t t' : Task} (hphase : t'.phase = t.phase) :
    Wraps i rs (v.release j t) (w.release j t') := by
  unfold World.release
  rw [hphase]
  cases t.phase with
  | ready s => exact h.setPhase j (by simp)
  | paused pause => exact h.setPhase j (by simp)
  | calling call => exact (h.leaveDesk j call.asked).setPhase j (by simp)
  | gathering metered first count => exact h.setPhase j (by simp)
  | finished o => exact h
  | dropped => exact h

theorem Wraps.drop (h : Wraps i rs v w) (j : Nat) : Wraps i rs (v.drop j) (w.drop j) := by
  unfold World.drop
  rcases h.root? j with ⟨hv, hw⟩ | ⟨t, t', hv, hw, -, hphase⟩
  · simp only [hv, hw]
    exact h
  · simp only [hv, hw]
    exact (h.release j hphase).close j

theorem Wraps.cancelTask (h : Wraps i rs v w) (j : Nat) :
    Wraps i rs (v.cancelTask j) (w.cancelTask j) := by
  unfold World.cancelTask
  rcases h.root? j with ⟨hv, hw⟩ | ⟨t, t', hv, hw, hscope, -⟩
  · simp only [hv, hw]
    exact h
  · simp only [hv, hw, hscope]
    exact h.cancel _

theorem Wraps.step (h : Wraps i rs v w) (l : Label) : Meets i rs (v.step l) (w.step l) := by
  cases l with
  | call s =>
    simp only [World.step, begin, h.length]
    exact .runs (h.spawn _)
  | serve s =>
    simp only [World.step, begin, h.length]
    exact .runs (h.spawn _)
  | run j => exact h.run j
  | reply j r => exact h.reply j r
  | cancel j => exact .runs (h.cancelTask j)
  | drop j => exact .runs (h.drop j)
  | shutDown => exact .runs (h.cancel _)
  | advance d =>
    exact .runs ⟨congrArg (Instant.advance · d) h.clock, h.tokenClock, h.caches, h.scripts, h.desks,
      h.canceled, h.tasks, h.lt, h.runs⟩
  | age d =>
    exact .runs ⟨h.clock, congrArg (Instant.advance · d) h.tokenClock, h.caches, h.scripts, h.desks,
      h.canceled, h.tasks, h.lt, h.runs⟩

theorem Meets.after (h : Meets i rs v w) (labels : List Label) :
    Meets i rs (v.after labels) (w.after labels) := by
  induction labels generalizing v w with
  | nil => exact h
  | cons l labels ih =>
    refine ih ?_
    cases h with
    | runs h => exact h.step l
    | ends hv hw => exact .ends (outcome?_after [l] hv) (outcome?_after [l] hw)

theorem Meets.outcome? (h : Meets i rs v w) :
    w.outcome? i = (v.outcome? i).map (Outcome.coveredBy rs) := by
  cases h with
  | runs h => rw [h.outcome?, h.runs, Option.map_none]
  | ends hv hw => rw [hv, hw, Option.map_some]

end

/-! ## Calls through caches -/

section
variable {w : World} {i : Nat} {t : Task} {s s' : Source} {rs : List Refresh}

/-- How a source has ended which a task calls with nothing in between, when several things have
    happened since. -/
def direct? (w : World) (i : Nat) (s : Source) (labels : List Label) : Option Outcome :=
  w.tasks[i]?.bind fun t => ((w.enter i t.scope s).after labels).outcome? i

/-- Such a source ends with the last of several things, or at once if nothing has happened since. -/
def EndsAt (w : World) (i : Nat) (s : Source) (labels : List Label) (o : Outcome) : Prop :=
  w.direct? i s labels = some o ∧ (labels = [] ∨ w.direct? i s labels.dropLast = none)

/-- A source which has ended did so with one of the things that have happened. -/
theorem exists_endsAt {labels : List Label} {o : Outcome} (h : w.direct? i s labels = some o) :
    ∃ mid rest, labels = mid ++ rest ∧ w.EndsAt i s mid o := by
  induction labels using List.reverseRecOn with
  | nil => exact ⟨[], [], rfl, h, Or.inl rfl⟩
  | append_singleton labels l ih =>
    cases hbefore : w.direct? i s labels with
    | none => exact ⟨labels ++ [l], [], by simp, h, Or.inr (by simpa using hbefore)⟩
    | some o' =>
      have hlater : w.direct? i s (labels ++ [l]) = some o' := by
        obtain ⟨t, ht, ho⟩ := Option.bind_eq_some_iff.1 hbefore
        rw [direct?, ht, Option.bind_some, after_append]
        exact outcome?_after [l] ho
      obtain rfl := Option.some.inj (hlater.symm.trans h)
      obtain ⟨mid, rest, rfl, hends⟩ := ih hbefore
      exact ⟨mid, rest ++ [l], by simp, hends⟩

/-- A cache which begins to wait for a task for which none has waited. -/
theorem Wraps.push {i : Nat} {outer : List Refresh} {v w : World} (h : Wraps i outer v w)
    (hv : v.refreshesOf i = []) (r : Refresh) : Wraps i (r :: outer) v (w.pushRefresh i r) where
  clock := h.clock
  tokenClock := h.tokenClock
  caches := h.caches
  scripts := h.scripts
  desks := h.desks
  canceled := h.canceled
  tasks := by
    refine List.ext_getElem? fun j => ?_
    simp only [World.pushRefresh, h.tasks, List.modify_modify_eq, List.getElem?_modify]
    cases hj : v.tasks[j]? with
    | none => rfl
    | some t =>
      by_cases hij : i = j
      · subst hij
        rw [refreshesOf_eq hj] at hv
        simp [hv]
      · simp [hij]
  lt := h.lt
  runs := h.runs

theorem meets_of_calls {w₀ : World} (hc : w₀.Calls s rs s') (i : Nat) (scope : Scope) :
    ∀ {v w : World} {outer : List Refresh}, w.Echoes w₀ → v.refreshesOf i = [] →
      Wraps i outer v w → Meets i (rs ++ outer) (v.enter i scope s') (w.enter i scope s) := by
  induction hc with
  | self s => exact fun _ _ h => Wraps.enter i scope s h
  | @through id frequency metered inner s' previous rs hr _ ih =>
    intro v w outer hw hv h
    let r : Refresh := ⟨id, frequency, metered, previous⟩
    let w' := (w.count metered [.cacheRequest, .cacheRefresh]).pushRefresh i r
    have hw' := pushRefresh_echoes w i metered [.cacheRequest, .cacheRefresh] r
    have hcount : Wraps i outer v (w.count metered [.cacheRequest, .cacheRefresh]) :=
      h.count false metered [] _
    have hwrap : Wraps i (r :: outer) v w' := hcount.push hv r
    rw [← hw.clock, ← hw.caches] at hr
    simp only [World.enter, hr, List.append_assoc]
    exact ih ⟨hw'.clock.trans hw.clock, hw'.caches.trans hw.caches, hw'.scripts.trans hw.scripts,
      hw'.length.trans hw.length⟩ hv hwrap

/-- **A call which goes on through caches as the call of another source ends as that does, covered
    by what the caches held.** -/
theorem outcome?_of_calls (ht : w.tasks[i]? = some t) (hs : t.phase = .ready s)
    (hrs : t.refreshes = []) (hc : w.Calls s rs s') (labels : List Label) :
    ((w.run i).after labels).outcome? i =
      (w.direct? i s' labels).map (Outcome.coveredBy rs) := by
  have hruns : w.outcome? i = none := by
    rw [World.outcome?, ht, Option.bind_some, Task.outcome?, hs]
  have hself : Wraps i [] w w := by
    refine ⟨rfl, rfl, rfl, rfl, rfl, rfl, ?_, (List.getElem?_eq_some_iff.1 ht).1, hruns⟩
    simp only [List.append_nil]
    exact (w.tasks.modify_id i).symm
  have hmeets := meets_of_calls hc i t.scope (.refl w) (by rw [refreshesOf_eq ht, hrs]) hself
  have hrun : w.run i = w.enter i t.scope s := by
    unfold World.run
    rw [ht]
    simp only [hs]
  rw [List.append_nil] at hmeets
  rw [hrun, (hmeets.after labels).outcome?, direct?, ht, Option.bind_some]

/-- A call which comes to an expired cache ends as the source behind it does, covered by what was
    kept there, and by what the caches held through which it came. -/
theorem outcome?_of_expired {id : Nat} {frequency : Duration} {metered : Bool} {inner : Source}
    {previous : Option (List Device)} (ht : w.tasks[i]? = some t) (hs : t.phase = .ready s)
    (hrs : t.refreshes = []) (hc : w.Calls s rs (.cached id frequency metered inner))
    (hr : (w.caches id).read w.clock = .expired previous) (labels : List Label) :
    ((w.run i).after labels).outcome? i =
      (w.direct? i inner labels).map fun o => (o.covered previous).coveredBy rs :=
  outcome?_of_calls ht hs hrs (hc.trans (.through hr (.self _))) labels

end

/-- What an expired cache keeps are the devices which were committed last. -/
theorem previous_of_expired {w : World} (hw : w.IsNew) {labels : List Label} {id : Nat}
    {previous : Option (List Device)}
    (hr : ((w.after labels).caches id).read (w.after labels).clock = .expired previous) :
    previous = (w.commits id labels).getLast?.map Commit.devices := by
  rw [read_after hw] at hr
  cases hlast : (w.commits id labels).getLast? with
  | none =>
    rw [hlast] at hr
    cases hr
    rfl
  | some c =>
    simp only [hlast] at hr
    split at hr
    · cases hr
    · cases hr
      rfl

end World

end TailnetTargets
