/-
  Calls which are canceled before they are made.

  * `Source.IsComposed`: sources which are made of interfaces, caches and joint sources;
  * `Source.Declines`: how such a source ends whose call is canceled, by what is found in its caches.
    An interface gives up, a fresh cache answers all the same, and an expired one covers the failure
    of its source;
  * `Outcome.FailsOnlyCanceled`: nothing has failed but what was canceled;
  * `World.Finds`: what is found in a cache at some time of a run;
  * `run_of_canceled`: what a task does whose call is canceled when it calls its source;
  * `phase_of_canceled`: what it is doing later, which is to wait for other tasks at most;
  * `declinesWhenCanceled`: how such a call ends, and `endsWhenCanceled`: turns of tasks alone let it
    end.
-/
import TailnetTargets.Proofs.Discovery.Kin

namespace TailnetTargets

/-! ## Sources which are made of interfaces -/

namespace Source

/-- Whether a source is made of interfaces, caches and joint sources alone. -/
def IsComposed (s : Source) : Prop := ∀ id, ¬ (scripted id).Within s

/-- How a source ends when its call is canceled before it is made, and its caches are found in
    certain ways. -/
inductive Declines (finds : Nat → Cache.Reading → Prop) : Source → Outcome → Prop where
  /-- an interface gives up -/
  | givesUp {asked : Interface} {metered : Bool} :
      Declines finds (.interface asked metered) (.failed .canceled)
  /-- a fresh cache answers with what it keeps -/
  | fresh {id : Nat} {frequency : Duration} {metered : Bool} {inner : Source}
      {devices : List Device} (hr : finds id (.fresh devices)) :
      Declines finds (.cached id frequency metered inner) (.found devices)
  /-- an expired cache covers how its source ends -/
  | expired {id : Nat} {frequency : Duration} {metered : Bool} {inner : Source}
      {previous : Option (List Device)} {o : Outcome} (hr : finds id (.expired previous))
      (h : Declines finds inner o) :
      Declines finds (.cached id frequency metered inner) (o.covered previous)
  /-- the outcomes of all members are joined -/
  | joint {metered : Bool} {members : List Source} {slots : List Outcome}
      (hlen : slots.length = members.length)
      (h : ∀ (k : Nat) (hk : k < members.length) (hk' : k < slots.length),
        Declines finds members[k] slots[k]) :
      Declines finds (.fanOut metered members) (.merge slots)

theorem IsComposed.of_within {s part : Source} (h : s.IsComposed) (hw : part.Within s) :
    part.IsComposed :=
  fun id h' => h id (h'.trans hw)

/-- A member of a joint source which is part of a source is smaller than that one. -/
theorem sizeOf_lt_of_member {s m : Source} {metered : Bool} {members : List Source}
    (h : (fanOut metered members).Within s) (hm : m ∈ members) : sizeOf m < sizeOf s := by
  have h₁ := h.sizeOf_le
  have h₂ := List.sizeOf_lt_of_mem hm
  simp only [fanOut.sizeOf_spec] at h₁
  omega

theorem Declines.mono {finds finds' : Nat → Cache.Reading → Prop}
    (hfinds : ∀ id reading, finds id reading → finds' id reading) {s : Source} {o : Outcome}
    (h : s.Declines finds o) : s.Declines finds' o := by
  induction h with
  | givesUp => exact .givesUp
  | fresh hr => exact .fresh (hfinds _ _ hr)
  | expired hr _ ih => exact .expired (hfinds _ _ hr) ih
  | joint hlen _ ih => exact .joint hlen ih

end Source

/-! ## Outcomes of canceled calls -/

/-- Whether nothing lies behind a failure but calls which were canceled. -/
inductive Failure.OnlyCanceled : Failure → Prop where
  | canceled : OnlyCanceled .canceled
  | stale {devices : List Device} {cause : Failure} (h : OnlyCanceled cause) :
      OnlyCanceled (.stale devices cause)
  | aggregate {devices : List Device} {causes : List Failure}
      (h : ∀ f ∈ causes, OnlyCanceled f) : OnlyCanceled (.aggregate devices causes)

namespace Outcome

/-- Whether nothing has failed but calls which were canceled, and nothing panicked. -/
def FailsOnlyCanceled : Outcome → Prop
  | found _ => True
  | failed failure => failure.OnlyCanceled
  | panicked _ => False

theorem FailsOnlyCanceled.covered {o : Outcome} (h : o.FailsOnlyCanceled)
    (previous : Option (List Device)) : (o.covered previous).FailsOnlyCanceled := by
  cases o with
  | found devices => trivial
  | panicked text => exact h
  | failed failure =>
    cases previous with
    | none => exact h
    | some devices => exact .stale h

theorem failsOnlyCanceled_merge {slots : List Outcome} (h : ∀ o ∈ slots, o.FailsOnlyCanceled) :
    (merge slots).FailsOnlyCanceled := by
  unfold merge
  split
  · trivial
  · refine .aggregate fun f hf => ?_
    obtain ⟨o, ho, hfail⟩ := List.mem_filterMap.1 hf
    have hcanceled := h o ho
    cases o with
    | found devices => cases hfail
    | failed failure => cases hfail; exact hcanceled
    | panicked text => cases hcanceled

/-- Joint outcomes fail when one of them does. -/
theorem merge_of_failed {slots : List Outcome} {f : Failure} (h : .failed f ∈ slots) :
    ∃ devices causes, merge slots = .failed (.aggregate devices causes) ∧ f ∈ causes := by
  have hf : f ∈ failures slots := List.mem_filterMap.2 ⟨_, h, rfl⟩
  unfold merge
  split
  · next hnil => rw [hnil] at hf; cases hf
  · exact ⟨_, _, rfl, hf⟩

end Outcome

namespace Source

theorem Declines.failsOnlyCanceled {finds : Nat → Cache.Reading → Prop} {s : Source} {o : Outcome}
    (h : s.Declines finds o) : o.FailsOnlyCanceled := by
  induction h with
  | givesUp => exact .canceled
  | fresh hr => trivial
  | expired hr _ ih => exact ih.covered _
  | joint hlen _ ih =>
    refine Outcome.failsOnlyCanceled_merge fun o ho => ?_
    obtain ⟨k, hk, rfl⟩ := List.getElem_of_mem ho
    exact ih k (hlen ▸ hk) hk

end Source

namespace World

/-! ## What is found in caches -/

/-- What is found in a cache at some time of a run. -/
def Finds (w : World) (labels : List Label) (id : Nat) (reading : Cache.Reading) : Prop :=
  ∃ first rest, labels = first ++ rest ∧
    ((w.after first).caches id).read (w.after first).clock = reading

section
variable {w : World} {id : Nat} {reading : Cache.Reading}

theorem finds_nil : w.Finds [] id reading ↔ (w.caches id).read w.clock = reading := by
  constructor
  · rintro ⟨first, rest, hnil, h⟩
    obtain ⟨rfl, -⟩ := List.append_eq_nil_iff.1 hnil.symm
    exact h
  · exact fun h => ⟨[], [], rfl, h⟩

/-- What is found in a part of a run is found in the run. -/
theorem Finds.of_after {first rest : List Label} (h : (w.after first).Finds rest id reading)
    (more : List Label) : w.Finds (first ++ (rest ++ more)) id reading := by
  obtain ⟨mid, later, rfl, hr⟩ := h
  exact ⟨first ++ mid, later ++ more, by simp, by rw [after_append]; exact hr⟩

end

/-- The call of a source ends as that does to which it comes. -/
theorem Calls.declines {w : World} {s base : Source} {rs : List Refresh}
    {finds : Nat → Cache.Reading → Prop} (hc : w.Calls s rs base)
    (hfinds : ∀ id reading, (w.caches id).read w.clock = reading → finds id reading) {o : Outcome}
    (h : base.Declines finds o) : s.Declines finds (o.coveredBy rs) := by
  induction hc with
  | self s => exact h
  | through hr _ ih =>
    rw [Outcome.coveredBy, List.foldl_append]
    exact .expired (hfinds _ _ hr) (ih h)

/-! ## Canceled tasks -/

section
variable {w : World} {i : Nat} {t : Task} {s : Source} {rs : List Refresh}

/-- A task which comes to an interface gives up if it is canceled. -/
theorem run_of_interface {asked : Interface} {metered : Bool} (ht : w.tasks[i]? = some t)
    (hs : t.phase = .ready s) (hc : w.Calls s rs (.interface asked metered))
    (hcanceled : w.isCanceled t.scope) :
    (w.run i).tasks[i]? = some { t with
      refreshes := rs ++ t.refreshes
      phase := .finished ((Outcome.failed .canceled).coveredBy (rs ++ t.refreshes)) } := by
  obtain ⟨u, hu, hrun⟩ := run_eq ht hs hc
  have hscope : u.isCanceled t.scope := by
    rw [isCanceled, hu.canceled]
    exact hcanceled
  have hends := (endCall_agrees u i ⟨asked, metered, u.tokenClock, .turn⟩ (.error .canceled)).trans
    (hu.ended i _)
  have hpushed := pushAll_task_self rs ht
  rw [hrun, enter, if_pos hscope, hends.tasks, ended, List.getElem?_modify_eq, hpushed,
    refreshesOf_eq hpushed]
  rfl

/-- What a task does whose call is canceled when it calls its source: it ends at once, or it waits
    for the members of a joint source. -/
theorem run_of_canceled (ht : w.tasks[i]? = some t) (hs : t.phase = .ready s)
    (hcomposed : s.IsComposed) (hcanceled : w.isCanceled t.scope) :
    ∃ rs base, w.Calls s rs base ∧
      ((∃ o, base.Declines (w.Finds []) o ∧ (w.run i).tasks[i]? = some { t with
          refreshes := rs ++ t.refreshes
          phase := .finished (o.coveredBy (rs ++ t.refreshes)) }) ∨
        ∃ metered members, base = .fanOut metered members) := by
  obtain ⟨rs, base, hc, hturn⟩ := run_of_calls ht hs (.self s)
  rw [List.append_nil] at hturn
  refine ⟨rs, base, hc, ?_⟩
  cases base with
  | scripted id => exact absurd hc.within (hcomposed id)
  | interface asked metered => exact Or.inl ⟨_, .givesUp, run_of_interface ht hs hc hcanceled⟩
  | fanOut metered members => exact Or.inr ⟨metered, members, rfl⟩
  | cached id frequency metered inner =>
    obtain ⟨phase, h, ⟨new, hw, -⟩ | ⟨o, ⟨devices, hr, rfl⟩, rfl⟩⟩ :=
      hturn.task_self (pushAll_task_self rs ht)
    · cases hw
    · exact Or.inl ⟨_, .fresh (finds_nil.2 hr), h⟩

/-- What a task is doing which was canceled when it was begun: it waits for other tasks at most. -/
theorem phase_of_canceled (ht : w.tasks[i]? = some t) (hs : t.phase = .ready s)
    (hcomposed : s.IsComposed) (hcanceled : w.isCanceled t.scope) (labels : List Label) {u : Task}
    (hu : (w.after labels).tasks[i]? = some u) :
    u = t ∨ (∃ metered first count, u.phase = .gathering metered first count) ∨ u.isOver := by
  rcases entry_cases ht (Task.isReady_iff.2 ⟨s, hs⟩) labels with h | h | ⟨first, rest, rfl, h⟩
  · exact Or.inl (Option.some.inj (hu.symm.trans h))
  · obtain rfl := Option.some.inj (hu.symm.trans h)
    exact Or.inr (Or.inr rfl)
  · rw [after_append, after_cons] at hu
    obtain ⟨rs, base, hc, ⟨o, -, hends⟩ | ⟨metered, members, rfl⟩⟩ :=
      run_of_canceled h hs hcomposed (isCanceled_after hcanceled first)
    · obtain rfl := Option.some.inj (hu.symm.trans (task_after_of_isOver hends rfl rest))
      exact Or.inr (Or.inr rfl)
    · rcases gathering_after (gathering_of_fanOut h hs hc) rfl
        (Nat.le_of_eq (length_of_fanOut h hs hc).symm) rest with h | ⟨slots, -, -, h⟩ | h
      · obtain rfl := Option.some.inj (hu.symm.trans h)
        exact Or.inr (Or.inl ⟨_, _, _, rfl⟩)
      · obtain rfl := Option.some.inj (hu.symm.trans h)
        exact Or.inr (Or.inr rfl)
      · obtain rfl := Option.some.inj (hu.symm.trans h)
        exact Or.inr (Or.inr rfl)

end

end World

/-! ## How canceled calls end -/

/-- Whether all calls of a source which are canceled before they are made end as was said. -/
def Source.DeclinesWhenCanceled (s : Source) : Prop :=
  ∀ (w : World) (i : Nat) (t : Task) (labels : List Label) (o : Outcome),
    w.tasks[i]? = some t → t.phase = .ready s → t.refreshes = [] → s.IsComposed →
    w.isCanceled t.scope → (w.after labels).outcome? i = some o → s.Declines (w.Finds labels) o

namespace World

section
variable {w : World} {i : Nat} {t : Task} {s : Source} {labels : List Label} {o : Outcome}

/-- A call which was canceled came through expired caches to a source which ends as was said, if its
    members do. -/
theorem exists_base (ih : ∀ m : Source, sizeOf m < sizeOf s → m.DeclinesWhenCanceled)
    (ht : w.tasks[i]? = some t) (hs : t.phase = .ready s) (hrs : t.refreshes = [])
    (hcomposed : s.IsComposed) (hcanceled : w.isCanceled t.scope)
    (ho : (w.after labels).outcome? i = some o) :
    ∃ first rest rs base ob, labels = first ++ .run i :: rest ∧ (w.after first).Calls s rs base ∧
      base.Declines (w.Finds labels) ob ∧ o = ob.coveredBy rs ∧
      ∀ u, (w.after labels).tasks[i]? = some u → u.refreshes = rs := by
  obtain ⟨first, rest, rfl, htf⟩ := exists_entry ht (Task.isReady_iff.2 ⟨s, hs⟩) ho
  have hlater : ∀ id reading, (w.after first).Finds [] id reading →
      w.Finds (first ++ .run i :: rest) id reading := fun id reading h => h.of_after _
  have hscope := isCanceled_after hcanceled first
  rw [after_append, after_cons] at ho ⊢
  obtain ⟨rs, base, hc, ⟨ob, hob, hends⟩ | ⟨metered, members, rfl⟩⟩ :=
    run_of_canceled htf hs hcomposed hscope
  · rw [hrs, List.append_nil] at hends
    have hend := task_after_of_isOver hends rfl rest
    refine ⟨first, rest, rs, base, ob, rfl, hc, hob.mono hlater, ?_, fun u hu => ?_⟩
    · rw [step, outcome?, hend] at ho
      exact (Option.some.inj ho).symm
    · rw [step, hend] at hu
      obtain rfl := Option.some.inj hu
      rfl
  · obtain ⟨slots, hlen, hslots, heq⟩ := outcome_of_fanOut htf hs hc ho
    rw [hrs, List.append_nil] at heq
    refine ⟨first, rest, rs, _, _, rfl, hc, .joint hlen fun k hk hk' => ?_, heq, fun u hu => ?_⟩
    · -- the task of a member is begun when its scope lies in one that is canceled already
      have hm : members[k] ∈ members := List.getElem_mem hk
      have hmember := member_of_fanOut htf hs hc (List.getElem?_eq_getElem hk)
      have hwithin : ((w.after first).run i).isCanceled (t.scope.within i) :=
        Scope.isCanceled_within i (isCanceled_step hscope (.run i))
      have h := ih _ (Source.sizeOf_lt_of_member hc.within hm) _ _ _ rest _ hmember rfl rfl
        (hcomposed.of_within (.trans (.member hm .self) hc.within)) hwithin (hslots k hk')
      have hrun : (w.after first).run i = w.after (first ++ [.run i]) :=
        (after_append w first [.run i]).symm
      rw [hrun] at h
      exact h.mono fun id reading hf => by simpa using hf.of_after []
    · obtain ⟨u', hu', hf⟩ := follows_after _ rest (gathering_of_fanOut htf hs hc)
      obtain rfl := Option.some.inj (hu.symm.trans hu')
      rw [hf.called (by simp [Task.isReady]), hrs, List.append_nil]

end

/-- A call which was canceled before it was made ends as was said. -/
theorem declinesWhenCanceled (s : Source) : s.DeclinesWhenCanceled := by
  intro w i t labels o ht hs hrs hcomposed hcanceled ho
  obtain ⟨first, rest, rs, base, ob, rfl, hc, hob, rfl, -⟩ :=
    exists_base (fun m _ => declinesWhenCanceled m) ht hs hrs hcomposed hcanceled ho
  refine hc.declines (fun id reading hr => ?_) hob
  exact (finds_nil.2 hr).of_after _
termination_by sizeOf s

/-! ## The end of canceled calls -/

/-- Several tasks, one after the other. -/
theorem exists_all_end {w : World} (first n : Nat) (labels : List Label)
    (h : ∀ k < n, ∀ later, ∃ more, (∀ l ∈ more, ∃ j, l = .run j) ∧
      ∃ o, (w.after (later ++ more)).outcome? (first + k) = some o) :
    ∃ more, (∀ l ∈ more, ∃ j, l = .run j) ∧
      ∀ k < n, ∃ o, (w.after (labels ++ more)).outcome? (first + k) = some o := by
  induction n with
  | zero => exact ⟨[], by simp, by simp⟩
  | succ n ih =>
    obtain ⟨more, hruns, hends⟩ := ih fun k hk => h k (Nat.lt_succ_of_lt hk)
    obtain ⟨more', hruns', o, ho⟩ := h n (Nat.lt_succ_self n) (labels ++ more)
    rw [List.append_assoc] at ho
    refine ⟨more ++ more', fun l hl => ?_, fun k hk => ?_⟩
    · exact (List.mem_append.1 hl).elim (hruns l) (hruns' l)
    · rcases Nat.lt_succ_iff_lt_or_eq.1 hk with hk | rfl
      · obtain ⟨o, ho⟩ := hends k hk
        rw [← List.append_assoc, after_append]
        exact ⟨o, outcome?_after more' ho⟩
      · exact ⟨o, ho⟩

end World

/-- Whether all calls of a source which are canceled before they are made end, unless they are
    dropped, when tasks have taken some turns. -/
def Source.EndsWhenCanceled (s : Source) : Prop :=
  ∀ (w : World) (i : Nat) (t : Task) (labels : List Label),
    w.tasks[i]? = some t → t.phase = .ready s → s.IsComposed → w.isCanceled t.scope →
    (∀ u, (w.after labels).tasks[i]? = some u → u.phase ≠ .dropped) →
    ∃ more, (∀ l ∈ more, ∃ j, l = .run j) ∧ ∃ o, (w.after (labels ++ more)).outcome? i = some o

namespace World

/-- A call which was canceled ends when it has called its source, if those of its members do. -/
theorem exists_end_of_entry {w : World} {i : Nat} {t : Task} {s : Source}
    (ih : ∀ m : Source, sizeOf m < sizeOf s → m.EndsWhenCanceled) (ht : w.tasks[i]? = some t)
    (hs : t.phase = .ready s) (hcomposed : s.IsComposed) (hcanceled : w.isCanceled t.scope)
    (rest : List Label)
    (hnot : ∀ u, ((w.run i).after rest).tasks[i]? = some u → u.phase ≠ .dropped) :
    ∃ more, (∀ l ∈ more, ∃ j, l = .run j) ∧
      ∃ o, ((w.run i).after (rest ++ more)).outcome? i = some o := by
  obtain ⟨rs, base, hc, ⟨o, -, hends⟩ | ⟨metered, members, rfl⟩⟩ :=
    run_of_canceled ht hs hcomposed hcanceled
  · refine ⟨[], by simp, o.coveredBy (rs ++ t.refreshes), outcome?_after _ ?_⟩
    rw [outcome?, hends]
    rfl
  · have hwithin : (w.run i).isCanceled (t.scope.within i) :=
      Scope.isCanceled_within i (isCanceled_step hcanceled (.run i))
    obtain ⟨more, hruns, hends⟩ := exists_all_end w.tasks.length members.length rest
      fun k hk later => by
        have hmember := member_of_fanOut ht hs hc (List.getElem?_eq_getElem hk)
        have hm : members[k] ∈ members := List.getElem_mem hk
        refine ih _ (Source.sizeOf_lt_of_member hc.within hm) _ _ _ later hmember rfl
          (hcomposed.of_within (.trans (.member hm .self) hc.within)) hwithin fun u hu hd => ?_
        obtain ⟨u', hu', hf⟩ := follows_after _ later hmember
        obtain rfl := Option.some.inj (hu.symm.trans hu')
        rcases hf.dropped hd with h | h <;> cases h
    have hlt : i < ((w.run i).after rest).tasks.length :=
      Nat.lt_of_lt_of_le (List.getElem?_eq_some_iff.1 ht).1
        (Nat.le_trans (length_le_step w (.run i)) (length_le_after _ _))
    have hnot' := not_dropped_of_runs hruns hlt hnot
    rw [← after_append] at hnot'
    obtain ⟨o, ho⟩ := exists_outcome_of_fanOut ht hs hc hends hnot'
    rw [List.append_assoc] at ho
    refine ⟨more ++ [.run i], fun l hl => ?_, o, ho⟩
    rcases List.mem_append.1 hl with hl | hl
    · exact hruns l hl
    · exact ⟨i, List.mem_singleton.1 hl⟩

/-- A call which was canceled before it was made ends without any reply. -/
theorem endsWhenCanceled (s : Source) : s.EndsWhenCanceled := by
  intro w i t labels ht hs hcomposed hcanceled hnot
  rcases entry_cases ht (Task.isReady_iff.2 ⟨s, hs⟩) labels with h | h | ⟨first, rest, rfl, h⟩
  · -- the call has yet to come to its source
    have hlt := (List.getElem?_eq_some_iff.1 h).1
    have hrun : ∀ l ∈ [Label.run i], ∃ k, l = .run k := fun l hl => ⟨i, List.mem_singleton.1 hl⟩
    obtain ⟨more, hruns, o, ho⟩ := exists_end_of_entry (fun m _ => endsWhenCanceled m) h hs
      hcomposed (isCanceled_after hcanceled labels) [] (not_dropped_of_runs hrun hlt hnot)
    refine ⟨.run i :: more, fun l hl => ?_, o, by rw [after_append]; exact ho⟩
    rcases List.mem_cons.1 hl with rfl | hl
    · exact ⟨i, rfl⟩
    · exact hruns l hl
  · exact absurd rfl (hnot _ h)
  · rw [after_append] at hnot
    obtain ⟨more, hruns, o, ho⟩ := exists_end_of_entry (fun m _ => endsWhenCanceled m) h hs
      hcomposed (isCanceled_after hcanceled first) rest hnot
    exact ⟨more, hruns, o, by rw [List.append_assoc, after_append]; exact ho⟩
termination_by sizeOf s

/-! ## The local node -/

/-- The interface of the local node. -/
def localNode : Source := .interface (.localApi "/l") false

/-- A reply of the local node when it knows of no others. -/
def alone : Reply := .answered 200 [0x7b, 0x7d] true

end World

end TailnetTargets
