/-
  What was committed to a cache.

  * `Commit`: a refresh which succeeded, with its time, its frequency and its devices;
  * `World.commit?` is the commit to a cache which a step makes: a task ends with devices, and the
    cache waits for it;
  * `World.commits` are the commits to a cache along a run, in their order;
  * `World.IsNew`: nothing was called yet, and all caches are empty;
  * `caches_after`: a cache holds what was committed last.
-/
import TailnetTargets.Proofs.Discovery.Life

namespace TailnetTargets

/-- A refresh which succeeded. -/
structure Commit where
  /-- when it did -/
  time : Instant
  /-- how often the source is asked at most -/
  frequency : Duration
  /-- the devices which were found -/
  devices : List Device

namespace Commit

/-- The cache after the commit. -/
def cache (c : Commit) : Cache := .commit c.time c.frequency c.devices

/-- When the source may be asked again. -/
def deadline (c : Commit) : Instant := c.time.advance (Cache.interval c.time c.frequency)

theorem read_cache (c : Commit) (now : Instant) :
    c.cache.read now = if now < c.deadline then .fresh c.devices else .expired (some c.devices) :=
  Cache.read_commit ..

end Commit

namespace Task

/-- The refresh of a cache which waits for a task, the outermost one if there are several. -/
def refresh? (t : Task) (id : Nat) : Option Refresh :=
  (t.refreshes.filter (·.cache = id)).getLast?

/-- What a task commits to a cache if it ends at an instant. -/
def commit? (t : Task) (id : Nat) (time : Instant) : Option Commit :=
  match t.outcome? with
  | some (.found devices) => (t.refresh? id).map fun r => ⟨time, r.frequency, devices⟩
  | _ => none

end Task

namespace World

/-- What a step commits to a cache. -/
def commit? (w : World) (l : Label) (id : Nat) : Option Commit :=
  (List.range w.tasks.length).findSome? fun i =>
    if w.isOver i then none else (w.step l).tasks[i]?.bind fun t => t.commit? id w.clock

/-- What is committed to a cache along a run. -/
def commits (w : World) (id : Nat) : List Label → List Commit
  | [] => []
  | l :: labels => (w.commit? l id).toList ++ (w.step l).commits id labels

theorem commits_append (w : World) (id : Nat) (first second : List Label) :
    w.commits id (first ++ second) = w.commits id first ++ (w.after first).commits id second := by
  induction first generalizing w with
  | nil => rfl
  | cons l first ih => simp only [List.cons_append, commits, ih, after_cons, List.append_assoc]

theorem commitAll_apply (now : Instant) (devices : List Device) (rs : List Refresh)
    (caches : Nat → Cache) (id : Nat) :
    commitAll now devices rs caches id =
      match (rs.filter (·.cache = id)).getLast? with
      | some r => .commit now r.frequency devices
      | none => caches id := by
  induction rs generalizing caches with
  | nil => rfl
  | cons r rs ih =>
    rw [commitAll, List.foldl_cons]
    refine (ih _).trans ?_
    by_cases hr : r.cache = id
    · rw [List.filter_cons_of_pos (by simpa using hr), List.getLast?_cons]
      cases (rs.filter (·.cache = id)).getLast? with
      | none => simp [hr]
      | some last => rfl
    · rw [List.filter_cons_of_neg (by simpa using hr)]
      cases (rs.filter (·.cache = id)).getLast? with
      | none => exact setAt_of_ne _ _ (Ne.symm hr)
      | some last => rfl

/-! ## Steps -/

/-- At most one index counts. -/
theorem findSome?_range {α : Type} {f : Nat → Option α} {n i : Nat} (hi : i < n)
    (h : ∀ j < n, j ≠ i → f j = none) : (List.range n).findSome? f = f i := by
  cases hf : f i with
  | none =>
    refine List.findSome?_eq_none_iff.2 fun j hj => ?_
    by_cases hji : j = i
    · rw [hji, hf]
    · exact h j (List.mem_range.1 hj) hji
  | some a =>
    obtain ⟨b, hb⟩ : ∃ b, (List.range n).findSome? f = some b := by
      rw [← Option.isSome_iff_exists, List.findSome?_isSome_iff]
      exact ⟨i, List.mem_range.2 hi, by rw [hf]; rfl⟩
    obtain ⟨j, hj, hfj⟩ := List.exists_of_findSome?_eq_some hb
    by_cases hji : j = i
    · rw [hb, ← hfj, hji, hf]
    · rw [h j (List.mem_range.1 hj) hji] at hfj
      cases hfj

theorem commit?_of_outcome?_none {t : Task} (h : t.outcome? = none) (id : Nat) (time : Instant) :
    t.commit? id time = none := by
  unfold Task.commit?
  rw [h]

theorem outcome?_of_isBusy {t : Task} (h : t.phase.isBusy) : t.outcome? = none := by
  unfold Task.outcome?
  split
  · next o ho => rw [ho] at h; cases h
  · rfl

theorem outcome?_of_not_isOver {t : Task} (h : ¬ t.isOver) : t.outcome? = none := by
  unfold Task.outcome?
  split
  · next o ho => simp [Task.isOver, ho] at h
  · rfl

/-- A step commits what the task commits whose step it is. -/
theorem commit?_of_self {w : World} {l : Label} {i : Nat} {t t' : Task}
    (ht : w.tasks[i]? = some t) (hover : ¬ t.isOver) (ht' : (w.step l).tasks[i]? = some t')
    (hne : ∀ j < w.tasks.length, j ≠ i → (w.step l).tasks[j]? = w.tasks[j]?) (id : Nat) :
    w.commit? l id = t'.commit? id w.clock := by
  have hlt : i < w.tasks.length := (List.getElem?_eq_some_iff.1 ht).1
  unfold commit?
  rw [findSome?_range hlt]
  · simp [isOver, ht, ht', hover]
  · intro j hj hji
    split
    · rfl
    · next hoverj =>
      rw [hne j hj hji, List.getElem?_eq_getElem hj]
      simp only [isOver, List.getElem?_eq_getElem hj, Option.all_some] at hoverj
      exact commit?_of_outcome?_none (outcome?_of_not_isOver hoverj) id _

/-- A step in which no task ends commits nothing. -/
theorem commit?_eq_none {w : World} {l : Label}
    (h : ∀ i < w.tasks.length, ∀ t t', w.tasks[i]? = some t → ¬ t.isOver →
      (w.step l).tasks[i]? = some t' → t'.outcome? = none) (id : Nat) :
    w.commit? l id = none := by
  refine List.findSome?_eq_none_iff.2 fun i hi => ?_
  have hlt : i < w.tasks.length := List.mem_range.1 hi
  split
  · rfl
  · next hover =>
    simp only [isOver, List.getElem?_eq_getElem hlt, Option.all_some] at hover
    refine Option.bind_eq_none_iff.2 fun t' ht' => ?_
    exact commit?_of_outcome?_none (h i hlt _ t' (List.getElem?_eq_getElem hlt) hover ht') id _

/-- A turn changes a cache only by what the task commits. -/
theorem Turn.caches {Ends : Outcome → Prop} {Waits : Phase → List Task → Prop} {w w' : World}
    {i : Nat} {t : Task} (h : Turn Ends Waits w i w') (ht : w.tasks[i]? = some t)
    (hw : ∀ phase new, Waits phase new → phase.isBusy) :
    ∃ t', w'.tasks[i]? = some t' ∧ ∀ id,
      w'.caches id = ((t'.commit? id w.clock).map Commit.cache).getD (w.caches id) := by
  have hlt : i < w.tasks.length := (List.getElem?_eq_some_iff.1 ht).1
  cases h with
  | @wait phase new hp h =>
    refine ⟨{ t with phase }, ?_, fun id => ?_⟩
    · rw [h.tasks, spawn, setPhase, List.getElem?_append_left (by simpa using hlt),
        List.getElem?_modify_eq, ht]
      rfl
    · rw [commit?_of_outcome?_none (outcome?_of_isBusy (hw phase new hp)), h.caches]
      rfl
  | @finish o ho h =>
    refine ⟨{ t with phase := .finished (o.coveredBy t.refreshes) }, ?_, fun id => ?_⟩
    · rw [h.tasks, ended, List.getElem?_modify_eq, ht, refreshesOf_eq ht]
      rfl
    · rw [h.caches, ended, refreshesOf_eq ht]
      cases o with
      | found devices =>
        simp only [settled, commitAll_apply, Task.commit?, Task.outcome?, Task.refresh?,
          Outcome.coveredBy_found]
        cases (t.refreshes.filter (·.cache = id)).getLast? <;> rfl
      | failed failure =>
        obtain ⟨f, hf⟩ := Outcome.coveredBy_failed t.refreshes failure
        simp [settled, Task.commit?, Task.outcome?, hf]
      | panicked text =>
        simp [settled, Task.commit?, Task.outcome?, Outcome.coveredBy_panicked]

/-- A step changes a cache only by what it commits. -/
theorem caches_step (w : World) (l : Label) (id : Nat) :
    (w.step l).caches id = ((w.commit? l id).map Commit.cache).getD (w.caches id) := by
  -- in every case at most one task changes, and what the step commits is what that one commits
  rcases step_change w l with ⟨-, hcaches, htasks⟩ | ⟨-, -, -, -, hcaches, htasks⟩ |
    @⟨i, t, s, base, rs, -, ht, hp, hc, h⟩ | @⟨i, t, -, ht, hp, h⟩ |
    @⟨i, t, -, ht, hover, -, -, hcaches, htasks⟩
  · rw [commit?_eq_none (fun i _ t t' ht hover ht' => ?_) id, hcaches]
    · rfl
    · rw [htasks, ht] at ht'
      obtain rfl := Option.some.inj ht'
      exact outcome?_of_not_isOver hover
  · rw [commit?_eq_none (fun i hlt t t' ht hover ht' => ?_) id, hcaches]
    · rfl
    · rw [htasks, List.getElem?_append_left hlt, ht] at ht'
      obtain rfl := Option.some.inj ht'
      exact outcome?_of_not_isOver hover
  · obtain ⟨t', ht', hcaches⟩ :=
      h.caches (pushAll_task_self rs ht) fun _ _ hw => SourceWaits.isBusy hw
    have hover : ¬ t.isOver := by simp [Task.isOver, hp]
    rw [commit?_of_self ht hover ht' (fun j hj hji => ?_) id]
    · exact hcaches id
    · rw [h.task_of_ne hji (by rwa [pushAll_length]), pushAll_task_of_ne w rs hji]
  · obtain ⟨t', ht', hcaches⟩ := h.caches ht fun _ _ hw => PhaseWaits.isBusy hw
    have hover := not_isOver_of_isBusy hp
    rw [commit?_of_self ht hover ht' (fun j hj hji => h.task_of_ne hji hj) id]
    exact hcaches id
  · have ht' : (w.step l).tasks[i]? = some { t with phase := .dropped } := by
      rw [htasks, List.getElem?_modify_eq, ht]; rfl
    rw [commit?_of_self ht hover ht' (fun j hj hji => ?_) id, hcaches]
    · rfl
    · rw [htasks, List.getElem?_modify_ne _ _ hji.symm]

theorem time_of_commit? {w : World} {l : Label} {id : Nat} {c : Commit}
    (h : w.commit? l id = some c) : c.time = w.clock := by
  obtain ⟨i, -, hi⟩ := List.exists_of_findSome?_eq_some h
  split at hi
  · cases hi
  · obtain ⟨t, -, ht⟩ := Option.bind_eq_some_iff.1 hi
    unfold Task.commit? at ht
    split at ht
    · obtain ⟨r, -, rfl⟩ := Option.map_eq_some_iff.1 ht
      rfl
    · cases ht

/-! ## Runs -/

/-- Nothing was called yet, and every cache is empty and may be asked to be filled. -/
structure IsNew (w : World) : Prop where
  tasks : w.tasks = []
  last : ∀ id, (w.caches id).last = none
  earliest : ∀ id, (w.caches id).earliest ≤ w.clock

/-- A cache holds what was committed last. -/
theorem caches_after (w : World) (labels : List Label) (id : Nat) :
    (w.after labels).caches id =
      ((w.commits id labels).getLast?.map Commit.cache).getD (w.caches id) := by
  induction labels generalizing w with
  | nil => rfl
  | cons l labels ih =>
    rw [after_cons, ih, caches_step, commits, List.getLast?_append]
    cases ((w.step l).commits id labels).getLast? with
    | none => cases w.commit? l id <;> rfl
    | some c => rfl

theorem clock_le_after (w : World) (labels : List Label) : w.clock ≤ (w.after labels).clock := by
  induction labels generalizing w with
  | nil => exact Nat.le_refl _
  | cons l labels ih => exact Nat.le_trans (clock_le_step w l) (ih _)

/-- What a caller finds in a cache: an empty one has to be filled, and what was committed last is
    kept until its deadline. -/
theorem read_after {w : World} (hw : w.IsNew) (labels : List Label) (id : Nat) :
    ((w.after labels).caches id).read (w.after labels).clock =
      match (w.commits id labels).getLast? with
      | none => .expired none
      | some c => if (w.after labels).clock < c.deadline then .fresh c.devices
        else .expired (some c.devices) := by
  rw [caches_after]
  cases (w.commits id labels).getLast? with
  | some c => exact c.read_cache _
  | none =>
    have h := hw.last id
    have hle : (w.caches id).earliest ≤ (w.after labels).clock :=
      Nat.le_trans (hw.earliest id) (clock_le_after w labels)
    simp only [Option.map_none, Option.getD_none, Cache.read, if_pos hle, h]

end World

end TailnetTargets
