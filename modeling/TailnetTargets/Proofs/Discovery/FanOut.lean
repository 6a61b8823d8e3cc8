/-
  What a source of several members finds.

  * `World.Slots`: the tasks from a first one on have ended with outcomes;
  * `run_of_fanOut`: the tasks which such a source begins, one for each member;
  * `gathering_step`, `gathering_after`: who waits for tasks goes on waiting until all of them have
    ended, or is dropped;
  * `Outcome.Contributes`: what a member contributes by how it ended, and `Outcome.Joins`: what
    several outcomes have in common;
  * `fanOut_joined`: the devices of all members in their order, and the failures of those which
    failed, whatever the order in which they ended.
-/
import Mathlib.Data.List.Forall2
import Mathlib.Tactic.Choose
import TailnetTargets.Proofs.Discovery.Entry

namespace TailnetTargets

theorem mapM_eq_some_iff {α β : Type} {f : α → Option β} {l : List α} {l' : List β} :
    l.mapM f = some l' ↔ l.map f = l'.map some := by
  induction l generalizing l' with
  | nil => cases l' <;> simp
  | cons a l ih =>
    rw [List.mapM_cons]
    cases hf : f a with
    | none => cases l' <;> simp [hf]
    | some b =>
      cases hl : l.mapM f with
      | none =>
        cases l' with
        | nil => simp
        | cons b' l' =>
          have : l.map f ≠ l'.map some := fun h => by simpa [hl] using ih.2 h
          simp [this]
      | some bs =>
        have hbs := ih.1 hl
        cases l' with
        | nil => simp
        | cons b' l' => simp [hf, hbs, List.map_inj_right]

namespace World

/-- The tasks from a first one on have ended with outcomes. -/
def Slots (w : World) (first : Nat) (slots : List Outcome) : Prop :=
  ∀ (k : Nat) (h : k < slots.length), w.outcome? (first + k) = some slots[k]

theorem Slots.after {w : World} {first : Nat} {slots : List Outcome} (h : w.Slots first slots)
    (labels : List Label) : (w.after labels).Slots first slots :=
  fun k hk => outcome?_after labels (h k hk)

theorem outcomes?_eq_some_iff {w : World} {first count : Nat} {slots : List Outcome}
    (hle : first + count ≤ w.tasks.length) :
    w.outcomes? first count = some slots ↔ slots.length = count ∧ w.Slots first slots := by
  have hlen : (((w.tasks.drop first).take count).map Task.outcome?).length = count := by
    simp only [List.length_map, List.length_take, List.length_drop]
    omega
  have hget : ∀ k < count, (((w.tasks.drop first).take count).map Task.outcome?)[k]? =
      some (w.outcome? (first + k)) := by
    intro k hk
    have hlt : first + k < w.tasks.length := by omega
    simp [hk, outcome?, List.getElem?_eq_getElem hlt]
  rw [outcomes?, mapM_eq_some_iff]
  constructor
  · intro h
    have hslots : slots.length = count := by rw [← hlen, h, List.length_map]
    refine ⟨hslots, fun k hk => ?_⟩
    have hk' := hget k (hslots ▸ hk)
    rw [h, List.getElem?_map, List.getElem?_eq_getElem hk] at hk'
    exact (Option.some.inj hk').symm
  · rintro ⟨hslots, h⟩
    refine List.ext_getElem? fun k => ?_
    rcases Nat.lt_or_ge k count with hk | hk
    · rw [hget k hk, h k (hslots ▸ hk), List.getElem?_map, List.getElem?_eq_getElem (hslots ▸ hk)]
      rfl
    · rw [List.getElem?_eq_none (Nat.le_trans (Nat.le_of_eq hlen) hk),
        List.getElem?_eq_none (by simpa [hslots] using hk)]

/-! ## The members' tasks -/

section
variable {w : World} {i : Nat} {t : Task} {s : Source} {rs : List Refresh} {metered : Bool}
  {members : List Source}

/-- A task which comes to a source of several members begins a task for each of them. -/
theorem run_of_fanOut (ht : w.tasks[i]? = some t) (hs : t.phase = .ready s)
    (hc : w.Calls s rs (.fanOut metered members)) :
    (w.run i).tasks = (w.tasks.modify i fun t =>
        { t with
          refreshes := rs ++ t.refreshes
          phase := .gathering metered w.tasks.length members.length })
      ++ memberTasks t.scope i members := by
  obtain ⟨rs', base, hb, hturn⟩ := run_of_calls ht hs hc
  cases hb
  rcases hturn with ⟨⟨rfl, rfl⟩, h⟩ | ⟨ho, -⟩
  · rw [h.tasks]
    simp only [spawn, setPhase, pushAll, List.modify_modify_eq, List.nil_append]
    rfl
  · cases ho

end

/-! ## Waiting for tasks -/

section
variable {w : World} {i : Nat} {t : Task} {metered : Bool} {first count : Nat}

/-- Who waits for tasks goes on waiting, joins the outcomes of all of them, or is dropped. -/
theorem gathering_step (ht : w.tasks[i]? = some t) (hp : t.phase = .gathering metered first count)
    (l : Label) :
    (w.step l).tasks[i]? = some t ∨
      (∃ slots, w.outcomes? first count = some slots ∧ (w.step l).tasks[i]? =
        some { t with phase := .finished ((Outcome.merge slots).coveredBy t.refreshes) }) ∨
      (w.step l).tasks[i]? = some { t with phase := .dropped } := by
  obtain ⟨t', ht', hm⟩ := moves_step l ht
  cases hm with
  | stays => exact Or.inl ht'
  | calls _ hready => rw [hp] at hready; cases hready
  | waits _ _ h => rw [hp] at h; cases h
  | ends _ _ h =>
    rw [hp] at h
    obtain ⟨slots, hslots, rfl⟩ := h
    exact Or.inr (Or.inl ⟨slots, hslots, ht'⟩)
  | drops => exact Or.inr (Or.inr ht')

theorem gathering_after (ht : w.tasks[i]? = some t) (hp : t.phase = .gathering metered first count)
    (hle : first + count ≤ w.tasks.length) (labels : List Label) :
    (w.after labels).tasks[i]? = some t ∨
      (∃ slots, slots.length = count ∧ (w.after labels).Slots first slots ∧
        (w.after labels).tasks[i]? =
          some { t with phase := .finished ((Outcome.merge slots).coveredBy t.refreshes) }) ∨
      (w.after labels).tasks[i]? = some { t with phase := .dropped } := by
  -- once the task is over, neither it nor the slots change any more
  induction labels generalizing w with
  | nil => exact Or.inl ht
  | cons l labels ih =>
    rw [after_cons]
    rcases gathering_step ht hp l with h | ⟨slots, hslots, h⟩ | h
    · exact ih h (Nat.le_trans hle (length_le_step w l))
    · obtain ⟨hlen, hslots⟩ := (outcomes?_eq_some_iff hle).1 hslots
      refine Or.inr (Or.inl ⟨slots, hlen, hslots.after (l :: labels), ?_⟩)
      exact task_after_of_isOver h rfl labels
    · exact Or.inr (Or.inr (task_after_of_isOver h rfl labels))

/-- Who waits for tasks goes on when all of them have ended. -/
theorem run_of_gathering {slots : List Outcome} (ht : w.tasks[i]? = some t)
    (hp : t.phase = .gathering metered first count) (h : w.outcomes? first count = some slots) :
    (w.run i).outcome? i = some ((Outcome.merge slots).coveredBy t.refreshes) := by
  have hrun : (w.run i).Agrees (w.ended i (.merge slots)) := by
    unfold run
    rw [ht]
    simp only [hp, h]
    exact (finish_agrees _ i _).trans ((w.count_agrees metered _).ended i _)
  rw [outcome?, hrun.tasks, ended, List.getElem?_modify_eq, ht, refreshesOf_eq ht]
  rfl

/-- A task for which another one waits is not dropped: when it is over, it has an outcome. -/
theorem outcome?_of_parent {parent : Nat} (ht : w.tasks[i]? = some t)
    (hparent : t.parent = some parent) (hp : t.phase ≠ .dropped) {labels : List Label}
    (hover : (w.after labels).isOver i) : ∃ o, (w.after labels).outcome? i = some o := by
  obtain ⟨t', ht', hf⟩ := follows_after w labels ht
  have hnot : t'.phase ≠ .dropped := by
    intro h
    rcases hf.dropped h with h | h
    · exact hp h
    · rw [hparent] at h
      cases h
  simp only [isOver, ht', Option.all_some, Task.isOver] at hover
  unfold outcome? Task.outcome?
  rw [ht']
  cases hph : t'.phase with
  | finished o => exact ⟨o, by simp [hph]⟩
  | dropped => exact absurd hph hnot
  | _ => rw [hph] at hover; cases hover

end

end World

/-! ## What members have in common -/

/-- What a member contributes to the common outcome. -/
structure Share where
  devices : List Device
  failure? : Option Failure

namespace Outcome

/-- What a member contributes by how it ended: the devices that were found, or its failure with the
    devices which that carries.  One which panicked contributes that its task was lost. -/
inductive Contributes : Outcome → Share → Prop where
  | found (devices : List Device) : Contributes (.found devices) ⟨devices, none⟩
  | stale (devices : List Device) (cause : Failure) :
    Contributes (.failed (.stale devices cause)) ⟨devices, some (.stale devices cause)⟩
  | aggregate (devices : List Device) (causes : List Failure) :
    Contributes (.failed (.aggregate devices causes)) ⟨devices, some (.aggregate devices causes)⟩
  | request (api : String) (cause : RequestFault) :
    Contributes (.failed (.request api cause)) ⟨[], some (.request api cause)⟩
  | unexpectedStatus (api : String) (status : Nat) :
    Contributes (.failed (.unexpectedStatus api status)) ⟨[], some (.unexpectedStatus api status)⟩
  | payload (api : String) (cause : JsonError) :
    Contributes (.failed (.payload api cause)) ⟨[], some (.payload api cause)⟩
  | canceled : Contributes (.failed .canceled) ⟨[], some .canceled⟩
  | lost (panic : Option String) : Contributes (.failed (.lost panic)) ⟨[], some (.lost panic)⟩
  | panicked (text : String) : Contributes (.panicked text) ⟨[], some (.lost (some text))⟩

theorem contributes (o : Outcome) : o.Contributes ⟨o.devices, o.failure?⟩ := by
  cases o with
  | found devices => exact .found devices
  | failed f =>
    cases f with
    | request api cause => exact .request api cause
    | unexpectedStatus api status => exact .unexpectedStatus api status
    | payload api cause => exact .payload api cause
    | canceled => exact .canceled
    | lost panic => exact .lost panic
    | stale devices cause => exact .stale devices cause
    | aggregate devices causes => exact .aggregate devices causes
  | panicked text => exact .panicked text

/-- What several outcomes have in common, by what each of them contributes: the devices of all of
    them in their order, and the failures of those which failed, in the same order. -/
inductive Joins (slots : List Outcome) : Outcome → Prop where
  | found {shares : List Share} (h : List.Forall₂ Contributes slots shares)
    (hnone : ∀ share ∈ shares, share.failure? = none) :
    Joins slots (.found (shares.flatMap Share.devices))
  | failed {shares : List Share} (h : List.Forall₂ Contributes slots shares)
    (hsome : shares.filterMap Share.failure? ≠ []) :
    Joins slots
      (.failed (.aggregate (shares.flatMap Share.devices) (shares.filterMap Share.failure?)))

theorem merge_joins (slots : List Outcome) : Joins slots (merge slots) := by
  let shares := slots.map fun o : Outcome => Share.mk o.devices o.failure?
  have h : List.Forall₂ Contributes slots shares :=
    List.forall₂_map_right_iff.2 (List.forall₂_same.2 fun o _ => o.contributes)
  have hdevices : slots.flatMap devices = shares.flatMap Share.devices := by
    simp only [shares, List.flatMap_map]
  have hfailures : failures slots = shares.filterMap Share.failure? := by
    simp only [shares, failures, List.filterMap_map]
    rfl
  rw [merge, hdevices, hfailures]
  split
  · next hnil => exact .found h (List.filterMap_eq_nil_iff.1 hnil)
  · next hcons => exact .failed h hcons

end Outcome

namespace World

/-! ## A source of several members -/

section
variable {w : World} {i : Nat} {t : Task} {s : Source} {rs : List Refresh} {metered : Bool}
  {members : List Source}

theorem gathering_of_fanOut (ht : w.tasks[i]? = some t) (hs : t.phase = .ready s)
    (hc : w.Calls s rs (.fanOut metered members)) :
    (w.run i).tasks[i]? = some { t with
      refreshes := rs ++ t.refreshes
      phase := .gathering metered w.tasks.length members.length } := by
  have hlt : i < w.tasks.length := (List.getElem?_eq_some_iff.1 ht).1
  rw [run_of_fanOut ht hs hc, List.getElem?_append_left (by simpa using hlt),
    List.getElem?_modify_eq, ht]
  rfl

theorem member_of_fanOut (ht : w.tasks[i]? = some t) (hs : t.phase = .ready s)
    (hc : w.Calls s rs (.fanOut metered members)) {k : Nat} {m : Source}
    (hm : members[k]? = some m) :
    (w.run i).tasks[w.tasks.length + k]? =
      some { scope := t.scope.within i, parent := some i, phase := .ready m } := by
  rw [run_of_fanOut ht hs hc, List.getElem?_append_right (by simp), List.length_modify,
    Nat.add_sub_cancel_left, memberTasks, List.getElem?_map, hm]
  rfl

theorem length_of_fanOut (ht : w.tasks[i]? = some t) (hs : t.phase = .ready s)
    (hc : w.Calls s rs (.fanOut metered members)) :
    (w.run i).tasks.length = w.tasks.length + members.length := by
  rw [run_of_fanOut ht hs hc]
  simp [memberTasks]

/-- Who waits for the tasks of members ends with what these have in common. -/
theorem outcome_of_fanOut (ht : w.tasks[i]? = some t) (hs : t.phase = .ready s)
    (hc : w.Calls s rs (.fanOut metered members)) {labels : List Label} {o : Outcome}
    (ho : ((w.run i).after labels).outcome? i = some o) :
    ∃ slots : List Outcome, slots.length = members.length ∧
      ((w.run i).after labels).Slots w.tasks.length slots ∧
      o = (Outcome.merge slots).coveredBy (rs ++ t.refreshes) := by
  have hle : w.tasks.length + members.length ≤ (w.run i).tasks.length :=
    Nat.le_of_eq (length_of_fanOut ht hs hc).symm
  rcases gathering_after (gathering_of_fanOut ht hs hc) rfl hle labels with
    h | ⟨slots, hlen, hslots, h⟩ | h
  · rw [outcome?, h] at ho
    cases ho
  · rw [outcome?, h] at ho
    exact ⟨slots, hlen, hslots, (Option.some.inj ho).symm⟩
  · rw [outcome?, h] at ho
    cases ho

/-- Who waits for the tasks of members ends with a turn when all of them have ended, unless it was
    dropped. -/
theorem exists_outcome_of_fanOut (ht : w.tasks[i]? = some t) (hs : t.phase = .ready s)
    (hc : w.Calls s rs (.fanOut metered members)) {labels : List Label}
    (hends : ∀ k < members.length, ∃ o,
      ((w.run i).after labels).outcome? (w.tasks.length + k) = some o)
    (hnot : ∀ u, ((w.run i).after labels).tasks[i]? = some u → u.phase ≠ .dropped) :
    ∃ o, ((w.run i).after (labels ++ [.run i])).outcome? i = some o := by
  have hle : w.tasks.length + members.length ≤ (w.run i).tasks.length :=
    Nat.le_of_eq (length_of_fanOut ht hs hc).symm
  rw [after_append]
  rcases gathering_after (gathering_of_fanOut ht hs hc) rfl hle labels with
    h | ⟨slots, -, -, h⟩ | h
  · choose f hf using fun k : Fin members.length => hends k k.2
    have hslots : ((w.run i).after labels).Slots w.tasks.length (List.ofFn f) := by
      intro k hk
      rw [List.getElem_ofFn]
      exact hf ⟨k, by simpa using hk⟩
    have hle' := Nat.le_trans hle (length_le_after (w.run i) labels)
    exact ⟨_, run_of_gathering h rfl
      ((outcomes?_eq_some_iff hle').2 ⟨List.length_ofFn, hslots⟩)⟩
  · have ho : ((w.run i).after labels).outcome? i =
        some ((Outcome.merge slots).coveredBy (rs ++ t.refreshes)) := by
      rw [outcome?, h]
      rfl
    exact ⟨_, outcome?_after [.run i] ho⟩
  · exact absurd rfl (hnot _ h)

/-- **A source of several members joins what its members find.**  Whatever happens after its call,
    and in whatever order the members end: its outcome has the devices of all members in their
    order, and the failures of those which failed, as long as no cache waits for it which covers
    these.  It has an outcome when all members have ended and it was not dropped.  The end of one
    member touches no other task, and cancels nothing but what was begun for that member. -/
theorem fanOut_joined (ht : w.tasks[i]? = some t) (hs : t.phase = .ready s)
    (hc : w.Calls s rs (.fanOut metered members)) (labels : List Label) :
    (∀ (k : Nat) (m : Source), members[k]? = some m →
      (w.run i).tasks[w.tasks.length + k]? =
        some { scope := t.scope.within i, parent := some i, phase := .ready m }) ∧
    (∀ o, ((w.run i).after labels).outcome? i = some o →
      ∃ (slots : List Outcome) (result : Outcome), slots.length = members.length ∧
        ((w.run i).after labels).Slots w.tasks.length slots ∧ Outcome.Joins slots result ∧
        o = result.coveredBy (rs ++ t.refreshes) ∧ (rs ++ t.refreshes = [] → o = result)) ∧
    ((∀ k < members.length, ((w.run i).after labels).isOver (w.tasks.length + k)) →
      (∀ t', ((w.run i).after labels).tasks[i]? = some t' → t'.phase ≠ .dropped) →
      ∃ o, ((w.run i).after (labels ++ [.run i])).outcome? i = some o) ∧
    ∀ k < members.length, ∀ l,
      (l = .run (w.tasks.length + k) ∨ ∃ r, l = .reply (w.tasks.length + k) r) →
      (∀ s, ¬ ((t.scope.within i).within (w.tasks.length + k)).contains s →
        (((w.run i).after labels).step l).isCanceled s = ((w.run i).after labels).isCanceled s) ∧
      ∀ j < ((w.run i).after labels).tasks.length, j ≠ w.tasks.length + k →
        (((w.run i).after labels).step l).tasks[j]? = ((w.run i).after labels).tasks[j]? := by
  have hself := gathering_of_fanOut ht hs hc
  have hmember := @member_of_fanOut _ _ _ _ _ _ _ ht hs hc
  have hle : w.tasks.length + members.length ≤ (w.run i).tasks.length :=
    Nat.le_of_eq (length_of_fanOut ht hs hc).symm
  have hlater := gathering_after hself rfl hle labels
  refine ⟨fun k m => hmember, ?_, ?_, ?_⟩
  · intro o ho
    obtain ⟨slots, hlen, hslots, rfl⟩ := outcome_of_fanOut ht hs hc ho
    refine ⟨slots, .merge slots, hlen, hslots, Outcome.merge_joins slots, rfl, fun hnone => ?_⟩
    rw [hnone]
    rfl
  · intro hover hkept
    have hstep : (w.run i).after (labels ++ [.run i]) = ((w.run i).after labels).run i :=
      after_append ..
    rw [hstep]
    rcases hlater with h | ⟨slots, -, -, h⟩ | h
    · have hends : ∀ k : Fin members.length,
          ∃ o, ((w.run i).after labels).outcome? (w.tasks.length + k) = some o := by
        intro k
        have hk := hmember (List.getElem?_eq_getElem k.2)
        exact outcome?_of_parent hk rfl (by simp) (hover k k.2)
      choose f hf using hends
      have hslots : ((w.run i).after labels).Slots w.tasks.length (List.ofFn f) := by
        intro k hk
        rw [List.getElem_ofFn]
        exact hf ⟨k, by simpa using hk⟩
      have hle' := Nat.le_trans hle (length_le_after (w.run i) labels)
      exact ⟨_, run_of_gathering h rfl
        ((outcomes?_eq_some_iff hle').2 ⟨List.length_ofFn, hslots⟩)⟩
    · have ho : ((w.run i).after labels).outcome? i =
          some ((Outcome.merge slots).coveredBy (rs ++ t.refreshes)) := by
        rw [outcome?, h]
        rfl
      exact ⟨_, outcome?_after [.run i] ho⟩
    · exact absurd rfl (hkept _ h)
  · intro k hk l hl
    have hcloses : ((w.run i).after labels).closesOf (w.tasks.length + k) =
        [(t.scope.within i).within (w.tasks.length + k)] := by
      obtain ⟨t', ht', hf⟩ := follows_after _ labels (hmember (List.getElem?_eq_getElem hk))
      rw [closesOf_eq ht', Task.closes_of_parent hf.parent, hf.scope]
    have hscopes : ∀ s, ¬ ((t.scope.within i).within (w.tasks.length + k)).contains s →
        ∀ c ∈ ((w.run i).after labels).closesOf (w.tasks.length + k), ¬ c.contains s := by
      intro s hs c hc
      rw [hcloses, List.mem_singleton] at hc
      rwa [hc]
    rcases hl with rfl | ⟨r, rfl⟩
    · refine ⟨fun s hs => isCanceled_of_closes (canceled_run _ _) (hscopes s hs),
        fun j hj hne => tasks_step_of_ne _ hj ?_ (by simp) (by simp)⟩
      exact fun h => hne (Label.run.inj h).symm
    · refine ⟨fun s hs => isCanceled_of_closes (canceled_reply _ _ r) (hscopes s hs),
        fun j hj hne => tasks_step_of_ne _ hj (by simp) ?_ (by simp)⟩
      exact fun r' h => hne (Label.reply.inj h).1.symm

end

/-! ## Members which find, panic and fail -/

/-- A world in which the first script finds a device, the third one has a device which stands in for
    a failure, and all others panic. -/
def mixed : World where
  scripts id := { cues := [{
    outcome :=
      match id with
      | 0 => .found [{ hostname := "a" }]
      | 2 => .failed (.stale [{ hostname := "c" }] .canceled)
      | _ => .panicked "b" }] }

/-- The first two scripts together. -/
def both : Source := .fanOut false [.scripted 0, .scripted 1]

/-- The first three scripts together. -/
def mixture : Source := .fanOut false [.scripted 0, .scripted 1, .scripted 2]

theorem fanOut_joined_panicking_member :
    ∃ slots : List Outcome, slots.length = 3 ∧
      (((mixed.after [.call mixture]).run 0).after [.run 3, .run 2, .run 1, .run 0]).Slots 1 slots ∧
      Outcome.Joins slots (.failed (.aggregate [{ hostname := "a" }, { hostname := "c" }]
        [.lost (some "b"), .stale [{ hostname := "c" }] .canceled])) := by
  have ho : (((mixed.after [.call mixture]).run 0).after
      [.run 3, .run 2, .run 1, .run 0]).outcome? 0 =
        some (.failed (.aggregate [{ hostname := "a" }, { hostname := "c" }]
          [.lost (some "b"), .stale [{ hostname := "c" }] .canceled])) := rfl
  have h := fanOut_joined (w := mixed.after [.call mixture]) (i := 0) rfl rfl (.self mixture)
    [.run 3, .run 2, .run 1, .run 0]
  obtain ⟨slots, result, hlen, hslots, hjoins, -, hresult⟩ := h.2.1 _ ho
  rw [← hresult rfl] at hjoins
  exact ⟨slots, hlen, hslots, hjoins⟩

end World

end TailnetTargets
