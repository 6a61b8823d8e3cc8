/-
  What caches and tasks see of a world.

  * `World.Agrees` compares worlds in their clocks, caches, canceled scopes, tasks and cues.
    Counting, telling, sending and what happens at token desks make no difference to it;
  * `Outcome.coveredBy`: the outcome of a source behind caches;
  * `World.ended` is a world after the source of a task ended.  `finish_agrees`: that is what
    `World.finish` makes of it;
  * `World.spawn` begins tasks, and `World.pushAll` lets caches wait for a task.
-/
import TailnetTargets.Discovery.Step

namespace TailnetTargets

/-! ## Outcomes behind caches -/

namespace Outcome

/-- The outcome of a source behind a cache whose caller found `previous`. -/
def covered (previous : Option (List Device)) : Outcome → Outcome
  | failed failure => failed (failure.covered previous)
  | outcome => outcome

/-- The outcome of a source behind caches, the inner ones first. -/
def coveredBy (rs : List Refresh) (o : Outcome) : Outcome :=
  rs.foldl (fun o r => o.covered r.previous) o

theorem coveredBy_found (rs : List Refresh) (devices : List Device) :
    (found devices).coveredBy rs = found devices := by
  induction rs with
  | nil => rfl
  | cons r rs ih => exact ih

theorem coveredBy_panicked (rs : List Refresh) (text : String) :
    (panicked text).coveredBy rs = panicked text := by
  induction rs with
  | nil => rfl
  | cons r rs ih => exact ih

theorem coveredBy_failed (rs : List Refresh) (failure : Failure) :
    ∃ f, (failed failure).coveredBy rs = failed f := by
  induction rs generalizing failure with
  | nil => exact ⟨failure, rfl⟩
  | cons r rs ih => exact ih (failure.covered r.previous)

end Outcome

namespace World

/-! ## Agreement -/

/-- Worlds which look the same to caches and tasks. -/
structure Agrees (v w : World) : Prop where
  clock : v.clock = w.clock
  caches : v.caches = w.caches
  canceled : v.canceled = w.canceled
  tasks : v.tasks = w.tasks
  cues : ∀ id, (v.scripts id).cues = (w.scripts id).cues

theorem Agrees.refl (w : World) : w.Agrees w := ⟨rfl, rfl, rfl, rfl, fun _ => rfl⟩

theorem Agrees.trans {u v w : World} (h : u.Agrees v) (h' : v.Agrees w) : u.Agrees w :=
  ⟨h.clock.trans h'.clock, h.caches.trans h'.caches, h.canceled.trans h'.canceled,
    h.tasks.trans h'.tasks, fun id => (h.cues id).trans (h'.cues id)⟩

theorem count_agrees (w : World) (metered : Bool) (events : List Event) :
    (w.count metered events).Agrees w := by
  unfold count
  split <;> exact ⟨rfl, rfl, rfl, rfl, fun _ => rfl⟩

theorem tell_agrees (w : World) (line : LogLine) : (w.tell line).Agrees w :=
  ⟨rfl, rfl, rfl, rfl, fun _ => rfl⟩

theorem setDesk_agrees (w : World) (id : Nat) (desk : TokenDesk) :
    (w.setDesk id desk).Agrees w := ⟨rfl, rfl, rfl, rfl, fun _ => rfl⟩

theorem send_agrees (w : World) (i : Nat) (asked : Interface) (request : Request) :
    (w.send i asked request).Agrees w := ⟨rfl, rfl, rfl, rfl, fun _ => rfl⟩

theorem leaveDesk_agrees (w : World) (i : Nat) (asked : Interface) :
    (w.leaveDesk i asked).Agrees w := by
  cases asked <;> exact ⟨rfl, rfl, rfl, rfl, fun _ => rfl⟩

theorem leaveDesk_registry (w : World) (i : Nat) (asked : Interface) :
    (w.leaveDesk i asked).registry = w.registry := by
  cases asked <;> rfl

theorem Agrees.setPhase {v w : World} (h : v.Agrees w) (i : Nat) (phase : Phase) :
    (v.setPhase i phase).Agrees (w.setPhase i phase) :=
  ⟨h.clock, h.caches, h.canceled, congrArg (List.modify · i _) h.tasks, h.cues⟩

/-- Begins tasks. -/
def spawn (w : World) (new : List Task) : World := { w with tasks := w.tasks ++ new }

theorem Agrees.spawn {v w : World} (h : v.Agrees w) (new : List Task) :
    (v.spawn new).Agrees (w.spawn new) :=
  ⟨h.clock, h.caches, h.canceled, congrArg (· ++ new) h.tasks, h.cues⟩

/-- Lets caches wait for a task. -/
def pushAll (w : World) (i : Nat) (rs : List Refresh) : World :=
  { w with tasks := w.tasks.modify i fun t => { t with refreshes := rs ++ t.refreshes } }

theorem Agrees.pushAll {v w : World} (h : v.Agrees w) (i : Nat) (rs : List Refresh) :
    (v.pushAll i rs).Agrees (w.pushAll i rs) :=
  ⟨h.clock, h.caches, h.canceled, congrArg (List.modify · i _) h.tasks, h.cues⟩

theorem pushAll_nil (w : World) (i : Nat) : w.pushAll i [] = w := by
  exact congrArg (fun tasks => { w with tasks }) (w.tasks.modify_id i)

theorem pushAll_pushAll (w : World) (i : Nat) (rs rs' : List Refresh) :
    (w.pushAll i rs).pushAll i rs' = w.pushAll i (rs' ++ rs) := by
  simp only [pushAll, List.modify_modify_eq]
  congr 2
  funext t
  simp

/-! ## The end of a task -/

/-- The caches which wait for a task. -/
def refreshesOf (w : World) (i : Nat) : List Refresh :=
  (w.tasks[i]?.map (·.refreshes)).getD []

theorem refreshesOf_eq {w : World} {i : Nat} {t : Task} (ht : w.tasks[i]? = some t) :
    w.refreshesOf i = t.refreshes := by
  simp [refreshesOf, ht]

theorem refreshesOf_setPhase (w : World) (i : Nat) (phase : Phase) :
    (w.setPhase i phase).refreshesOf i = w.refreshesOf i := by
  simp only [refreshesOf, setPhase, List.getElem?_modify_eq]
  cases w.tasks[i]? <;> rfl

theorem closesOf_eq {w : World} {i : Nat} {t : Task} (ht : w.tasks[i]? = some t) :
    w.closesOf i = t.closes i := by
  simp [closesOf, ht]

theorem closesOf_setPhase (w : World) (i : Nat) (phase : Phase) :
    (w.setPhase i phase).closesOf i = w.closesOf i := by
  simp only [closesOf, setPhase, List.getElem?_modify_eq]
  cases w.tasks[i]? <;> rfl

theorem closesOf_of_tasks {v w : World} (h : v.tasks = w.tasks) (i : Nat) :
    v.closesOf i = w.closesOf i := by
  simp only [closesOf, h]

/-- The caches after devices were committed to some of them. -/
def commitAll (now : Instant) (devices : List Device) (rs : List Refresh) (caches : Nat → Cache) :
    Nat → Cache :=
  rs.foldl (fun cs r => setAt cs r.cache (.commit now r.frequency devices)) caches

/-- The caches after the source behind some of them ended. -/
def settled (now : Instant) (rs : List Refresh) (caches : Nat → Cache) : Outcome → Nat → Cache
  | .found devices => commitAll now devices rs caches
  | _ => caches

/-- A world after the source of a task ended, as far as caches and tasks see it. -/
def ended (w : World) (i : Nat) (o : Outcome) : World :=
  { w with
    caches := settled w.clock (w.refreshesOf i) w.caches o
    canceled := w.closesOf i ++ w.canceled
    tasks := w.tasks.modify i fun t =>
      { t with phase := .finished (o.coveredBy (w.refreshesOf i)) } }

theorem settleOne_snd (w : World) (r : Refresh) (o : Outcome) :
    (w.settleOne r o).2 = o.covered r.previous := by
  cases o <;> rfl

theorem settle_snd (rs : List Refresh) (w : World) (o : Outcome) :
    (w.settle rs o).2 = o.coveredBy rs := by
  induction rs generalizing w o with
  | nil => rfl
  | cons r rs ih =>
    simp only [settle, ih, settleOne_snd]
    rfl

/-- A source which ends touches nothing but the caches which wait for it and the counters. -/
theorem settle_fst (rs : List Refresh) (w : World) (o : Outcome) :
    (w.settle rs o).1.Agrees { w with caches := settled w.clock rs w.caches o } := by
  induction rs generalizing w o with
  | nil => cases o <;> exact ⟨rfl, rfl, rfl, rfl, fun _ => rfl⟩
  | cons r rs ih =>
    refine (ih _ _).trans ?_
    cases o with
    | found devices => exact ⟨rfl, rfl, rfl, rfl, fun _ => rfl⟩
    | panicked text => exact ⟨rfl, rfl, rfl, rfl, fun _ => rfl⟩
    | failed failure =>
      have h := w.count_agrees (r.metered && r.previous.isSome) [.cacheStale]
      exact ⟨h.clock, h.caches, h.canceled, h.tasks, h.cues⟩

/-- What the end of a task does. -/
theorem finish_agrees (w : World) (i : Nat) (o : Outcome) :
    (w.finish i o).Agrees (w.ended i o) := by
  have h := settle_fst (w.refreshesOf i) w o
  refine ⟨h.clock, h.caches, ?_, ?_, h.cues⟩
  · change World.closesOf ((w.settle (w.refreshesOf i) o).1.setPhase i _) i ++
      (w.settle (w.refreshesOf i) o).1.canceled = _
    rw [closesOf_setPhase, closesOf_of_tasks h.tasks, h.canceled]
    rfl
  · change (w.settle (w.refreshesOf i) o).1.tasks.modify i _ = _
    rw [h.tasks]
    exact congrArg (fun p => w.tasks.modify i fun t => { t with phase := .finished p })
      (settle_snd _ w o)

theorem Agrees.ended {v w : World} (h : v.Agrees w) (i : Nat) (o : Outcome) :
    (v.ended i o).Agrees (w.ended i o) := by
  have hr : v.refreshesOf i = w.refreshesOf i := by simp only [refreshesOf, h.tasks]
  refine ⟨h.clock, ?_, ?_, ?_, h.cues⟩
  · simp only [World.ended, hr, h.clock, h.caches]
  · simp only [World.ended, closesOf_of_tasks h.tasks, h.canceled]
  · simp only [World.ended, hr, h.tasks]

theorem endCall_agrees (w : World) (i : Nat) (call : Call)
    (result : Except Failure (List Device)) :
    (w.endCall i call result).Agrees (w.ended i (.ofExcept result)) := by
  refine (finish_agrees _ _ _).trans (Agrees.ended ?_ i _)
  exact (tell_agrees _ _).trans ((count_agrees _ _ _).trans (leaveDesk_agrees _ _ _))

theorem setPhase_ended (w : World) (i : Nat) (phase : Phase) (o : Outcome) :
    (w.setPhase i phase).ended i o = w.ended i o := by
  unfold ended
  rw [refreshesOf_setPhase, closesOf_setPhase]
  simp only [setPhase, List.modify_modify_eq]
  rfl

theorem setPhase_setPhase (w : World) (i : Nat) (p q : Phase) :
    (w.setPhase i p).setPhase i q = w.setPhase i q := by
  simp only [setPhase, List.modify_modify_eq]
  rfl

end World

end TailnetTargets
