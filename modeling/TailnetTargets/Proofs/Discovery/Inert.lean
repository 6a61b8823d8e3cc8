/-
  What calls leave behind which are canceled before they are made.

  * `World.SameTraffic`: no request more was sent, no token was given out, and what is counted of
    requests and of what they reported is the same;
  * `step_sameTraffic`: so it is after every step of a task which was canceled when it was begun;
  * `exists_begun`: the tasks of a canceled call are canceled when they are begun, and call parts of
    its source;
  * `Source.AsksDirectly`: a source which asks an interface whatever its caches hold;
  * `World.LeavesCaches`: canceled calls leave all caches as they are;
  * `inert_of_canceled`: they do, but for a cache whose source answers without any interface;
  * `doubled`, `renewed`: a cache behind a cache, which is still fresh when the outer one is not.
-/
import TailnetTargets.Proofs.Discovery.Atomicity
import TailnetTargets.Proofs.Discovery.Decline
import TailnetTargets.Proofs.Discovery.Requests

namespace TailnetTargets

/-! ## Requests, and what is counted of them -/

/-- Whether a counter tells of requests to interfaces, or of what they reported. -/
def Counter.isTraffic : Counter → Bool
  | requests _ | requestErrors _ | payloadErrors _ | devicesFound _ => true
  | _ => false

/-- Whether an event adds to such a counter. -/
def Event.isTraffic (e : Event) : Bool := e.increment?.any fun increment => increment.1.isTraffic

theorem Registry.count_of_not_isTraffic {events : List Event}
    (h : ∀ e ∈ events, e.isTraffic = false) (r : Registry) {c : Counter} (hc : c.isTraffic) :
    (events.foldl Registry.record r).count? c = r.count? c := by
  induction events generalizing r with
  | nil => rfl
  | cons e events ih =>
    have he := h e (List.mem_cons_self ..)
    rw [List.foldl_cons, ih (fun e he => h e (List.mem_cons_of_mem _ he)), Registry.count_record]
    unfold Event.isTraffic at he
    split
    · next c' n hi =>
      rw [hi, Option.any_some] at he
      rw [if_neg]
      rintro rfl
      rw [hc] at he
      cases he
    · rfl

namespace World

/-- Worlds in which the same requests were sent, the same tokens are kept, and the same is counted
    of requests and of what they reported. -/
structure SameTraffic (v w : World) : Prop where
  sent : v.sent = w.sent
  kept : ∀ id, (v.desks id).kept = (w.desks id).kept
  counts : ∀ c : Counter, c.isTraffic → v.registry.count? c = w.registry.count? c

theorem SameTraffic.refl (w : World) : w.SameTraffic w := ⟨rfl, fun _ => rfl, fun _ _ => rfl⟩

theorem SameTraffic.trans {u v w : World} (h : u.SameTraffic v) (h' : v.SameTraffic w) :
    u.SameTraffic w :=
  ⟨h.sent.trans h'.sent, fun id => (h.kept id).trans (h'.kept id),
    fun c hc => (h.counts c hc).trans (h'.counts c hc)⟩

section
variable (w : World)

theorem count_sameTraffic (metered : Bool) {events : List Event}
    (h : ∀ e ∈ events, e.isTraffic = false) : (w.count metered events).SameTraffic w := by
  unfold count
  split
  · exact ⟨rfl, fun _ => rfl, fun c hc => Registry.count_of_not_isTraffic h _ hc⟩
  · exact .refl w

theorem setPhase_sameTraffic (i : Nat) (phase : Phase) : (w.setPhase i phase).SameTraffic w :=
  ⟨rfl, fun _ => rfl, fun _ _ => rfl⟩

theorem pushRefresh_sameTraffic (i : Nat) (r : Refresh) : (w.pushRefresh i r).SameTraffic w :=
  ⟨rfl, fun _ => rfl, fun _ _ => rfl⟩

theorem cancel_sameTraffic (s : Scope) : (w.cancel s).SameTraffic w :=
  ⟨rfl, fun _ => rfl, fun _ _ => rfl⟩

theorem close_sameTraffic (i : Nat) : (w.close i).SameTraffic w :=
  ⟨rfl, fun _ => rfl, fun _ _ => rfl⟩

theorem tell_sameTraffic (line : LogLine) : (w.tell line).SameTraffic w :=
  ⟨rfl, fun _ => rfl, fun _ _ => rfl⟩

/-- Who goes from a token desk leaves the token there. -/
theorem leaveDesk_sameTraffic (i : Nat) (asked : Interface) :
    (w.leaveDesk i asked).SameTraffic w := by
  have h := w.leaveDesk_quiet i asked
  exact ⟨h.sent, h.kept, fun c _ => by rw [leaveDesk_registry]⟩

theorem settleOne_sameTraffic (r : Refresh) (o : Outcome) :
    (w.settleOne r o).1.SameTraffic w := by
  cases o with
  | found devices => exact ⟨rfl, fun _ => rfl, fun _ _ => rfl⟩
  | failed failure => exact w.count_sameTraffic _ (by decide)
  | panicked text => exact .refl w

end

theorem settle_sameTraffic (rs : List Refresh) (w : World) (o : Outcome) :
    (w.settle rs o).1.SameTraffic w := by
  induction rs generalizing w o with
  | nil => exact .refl w
  | cons r rs ih => exact (ih _ _).trans (w.settleOne_sameTraffic r o)

theorem finish_sameTraffic (w : World) (i : Nat) (o : Outcome) : (w.finish i o).SameTraffic w :=
  (close_sameTraffic _ i).trans
    ((setPhase_sameTraffic _ i _).trans (settle_sameTraffic _ w o))

/-- A call which gives up because it was canceled counts nothing but how long it took. -/
theorem endCall_sameTraffic (w : World) (i : Nat) (call : Call) :
    (w.endCall i call (.error .canceled)).SameTraffic w := by
  refine (finish_sameTraffic _ i _).trans ((tell_sameTraffic _ _).trans
    ((count_sameTraffic _ _ ?_).trans (leaveDesk_sameTraffic w i call.asked)))
  simp [callEvents, Failure.accounting, Event.isTraffic, Event.increment?]

/-! ## Steps of canceled tasks -/

/-- A canceled task which calls its source sends nothing. -/
theorem enter_sameTraffic (i : Nat) {scope : Scope} : ∀ (s : Source) (w : World), s.IsComposed →
    w.isCanceled scope → (w.enter i scope s).SameTraffic w
  | .scripted id, w, hs, _ => absurd .self (hs id)
  | .interface asked metered, w, _, hcanceled => by
    rw [enter, if_pos hcanceled]
    exact endCall_sameTraffic w i _
  | .cached id frequency metered inner, w, hs, hcanceled => by
    rw [enter]
    split
    · exact (finish_sameTraffic _ i _).trans (count_sameTraffic w metered (by decide))
    · have hcount := w.count_agrees metered [.cacheRequest, .cacheRefresh]
      refine (enter_sameTraffic i inner _ (hs.of_within (.behind .self)) ?_).trans
        ((pushRefresh_sameTraffic _ i _).trans (count_sameTraffic w metered (by decide)))
      rw [isCanceled, pushRefresh, hcount.canceled]
      exact hcanceled
  | .fanOut metered members, w, _, _ => by
    have hcount : (w.count metered [.fanOut]).SameTraffic w :=
      count_sameTraffic w metered (by decide)
    exact ⟨hcount.sent, hcount.kept, hcount.counts⟩

theorem run_sameTraffic {w : World} {i : Nat} {u : Task} (hu : w.tasks[i]? = some u)
    (h : (∃ s, u.phase = .ready s ∧ s.IsComposed ∧ w.isCanceled u.scope) ∨
      (∃ metered first count, u.phase = .gathering metered first count) ∨ u.isOver) :
    (w.run i).SameTraffic w := by
  unfold run
  rw [hu]
  simp only
  rcases h with ⟨s, hp, hs, hcanceled⟩ | ⟨metered, first, count, hp⟩ | hover
  · rw [hp]
    exact enter_sameTraffic i s w hs hcanceled
  · rw [hp]
    simp only
    split
    · refine (finish_sameTraffic _ i _).trans (count_sameTraffic w metered ?_)
      simp [Event.isTraffic, Event.increment?, Counter.isTraffic]
    · exact .refl w
  · cases hp : u.phase with
    | finished o => exact .refl w
    | dropped => exact .refl w
    | _ => simp [Task.isOver, hp] at hover

theorem release_registry (w : World) (i : Nat) (t : Task) :
    (w.release i t).registry = w.registry := by
  unfold release
  split
  · rfl
  · rfl
  · rfl
  · next call _ => exact w.leaveDesk_registry i call.asked
  · rfl
  · rfl

theorem drop_registry (w : World) (i : Nat) : (w.drop i).registry = w.registry := by
  unfold drop
  split
  · next t _ => exact w.release_registry i t
  · rfl

theorem drop_sameTraffic (w : World) (i : Nat) : (w.drop i).SameTraffic w := by
  have h := w.drop_quiet i
  exact ⟨h.sent, h.kept, fun c _ => by rw [drop_registry]⟩

/-- Nothing that happens to a task sends anything if the task was canceled when it was begun. -/
theorem step_sameTraffic {w : World} {l : Label} {i : Nat} {u : Task} (hl : l.task? = some i)
    (hu : w.tasks[i]? = some u)
    (h : (∃ s, u.phase = .ready s ∧ s.IsComposed ∧ w.isCanceled u.scope) ∨
      (∃ metered first count, u.phase = .gathering metered first count) ∨ u.isOver) :
    (w.step l).SameTraffic w := by
  cases l with
  | run j =>
    cases hl
    exact run_sameTraffic hu h
  | reply j r =>
    cases hl
    have hnot : ∀ call, u.phase ≠ .calling call := by
      intro call hp
      rcases h with ⟨s, hs, -⟩ | ⟨metered, first, count, hs⟩ | hover
      · rw [hp] at hs; cases hs
      · rw [hp] at hs; cases hs
      · simp [Task.isOver, hp] at hover
    rw [step, reply, hu]
    split
    · next heq =>
      obtain rfl := Option.some.inj heq
      exact absurd rfl (hnot _)
    · exact .refl w
  | cancel j =>
    rw [step, cancelTask]
    split
    · exact cancel_sameTraffic w _
    · exact .refl w
  | drop j => exact drop_sameTraffic w j
  | _ => cases hl

/-! ## The tasks of a canceled call -/

/-- A task beneath one which was begun was begun as well. -/
theorem Beneath.exists_task {w : World} {i j : Nat} {t : Task} (h : w.Beneath i j)
    (ht : w.tasks[i]? = some t) : ∃ u, w.tasks[j]? = some u := by
  cases h with
  | self => exact ⟨t, ht⟩
  | child hu _ _ => exact ⟨_, hu⟩

section
variable {w : World} {i : Nat} {t : Task} {s : Source}

/-- A task of a canceled call was canceled when it was begun, and it calls a part of the source. -/
theorem exists_begun (hw : w.IsForest) (ht : w.tasks[i]? = some t) (hs : t.phase = .ready s)
    (hrs : t.refreshes = []) (hcanceled : w.isCanceled t.scope) {labels : List Label} {j : Nat}
    (hj : (w.after labels).Beneath i j) {u : Task} (hu : (w.after labels).tasks[j]? = some u) :
    ∃ first rest v sj, labels = first ++ rest ∧ (w.after first).tasks[j]? = some v ∧
      v.phase = .ready sj ∧ v.refreshes = [] ∧ sj.Within s ∧
      (w.after first).isCanceled v.scope := by
  induction labels using List.reverseRecOn generalizing j u with
  | nil =>
    obtain rfl := hj.eq_of_isReady hw ht (Task.isReady_iff.2 ⟨s, hs⟩)
    exact ⟨[], [], t, s, rfl, ht, hs, hrs, .self, hcanceled⟩
  | append_singleton labels l ih =>
    have hforest := hw.after labels
    rw [after_snoc] at hj hu
    rcases Nat.lt_or_ge j (w.after labels).tasks.length with hlt | hle
    · obtain ⟨first, rest, v, sj, rfl, h⟩ := ih (hj.of_step hforest hlt) (List.getElem?_eq_getElem hlt)
      exact ⟨first, rest ++ [l], v, sj, by simp, h⟩
    · cases hj with
      | self =>
        have hlt := Nat.lt_of_lt_of_le (List.getElem?_eq_some_iff.1 ht).1 (length_le_after w labels)
        omega
      | @child p _ u' hu' hp hbelow =>
        obtain rfl := Option.some.inj (hu.symm.trans hu')
        rcases begun_step (w.after labels) l hle hu with ⟨hroot, -⟩ |
          ⟨q, tq, sq, rs, metered, members, m, rfl, htq, hsq, hc, hm, rfl⟩
        · rw [hp] at hroot
          cases hroot
        · cases hp
          -- whoever begins the task has been about to call its source ever since it was begun
          have hplt := (List.getElem?_eq_some_iff.1 htq).1
          obtain ⟨first, rest, v, sp, rfl, hv, hsp, -, hin, hscope⟩ :=
            ih (hbelow.of_step (l := .run p) hforest hplt) htq
          rw [after_append] at htq
          obtain ⟨v', hv', hf⟩ := follows_after _ rest hv
          obtain rfl := Option.some.inj (htq.symm.trans hv')
          have hsame := hf.ready (Task.isReady_iff.2 ⟨sq, hsq⟩)
          rw [hsame, hsp] at hsq
          cases hsq
          have hu' : (w.after (first ++ rest ++ [.run p])).tasks[j]? = some
              { scope := tq.scope.within p, parent := some p, phase := .ready m } := by
            rw [after_append]
            exact hu
          refine ⟨_, [], _, m, (List.append_nil _).symm, hu', rfl, rfl, ?_, ?_⟩
          · exact (Source.Within.member (List.mem_of_getElem? hm) .self).trans
              (hc.within.trans hin)
          · have hlater := isCanceled_after hscope (rest ++ [Label.run p])
            rw [hsame, List.append_assoc, after_append]
            exact Scope.isCanceled_within p hlater

/-- Nothing that happens to a task of a canceled call sends anything. -/
theorem sameTraffic_of_beneath (hw : w.IsForest) (ht : w.tasks[i]? = some t)
    (hs : t.phase = .ready s) (hrs : t.refreshes = []) (hcomposed : s.IsComposed)
    (hcanceled : w.isCanceled t.scope) {labels : List Label} {l : Label} {j : Nat}
    (hl : l.task? = some j) (hj : (w.after labels).Beneath i j) :
    ((w.after labels).step l).SameTraffic (w.after labels) := by
  obtain ⟨t', ht', -⟩ := follows_after w labels ht
  obtain ⟨u, hu⟩ := hj.exists_task ht'
  obtain ⟨first, rest, v, sj, rfl, hv, hsj, -, hin, hscope⟩ :=
    exists_begun hw ht hs hrs hcanceled hj hu
  rw [after_append] at hu ⊢
  have hpart := hcomposed.of_within hin
  refine step_sameTraffic hl hu ?_
  rcases phase_of_canceled hv hsj hpart hscope rest hu with rfl | hu' | hu'
  · exact Or.inl ⟨sj, hsj, hpart, isCanceled_after hscope rest⟩
  · exact Or.inr (Or.inl hu')
  · exact Or.inr (Or.inr hu')

end

/-! ## What canceled calls keep -/

/-- Who commits something to a cache waits for it there, and has found it. -/
theorem exists_refresh_of_commit? {w : World} {l : Label} {id : Nat} {c : Commit}
    (h : w.commit? l id = some c) : ∃ j u r, l.task? = some j ∧ (w.step l).tasks[j]? = some u ∧
      u.outcome? = some (.found c.devices) ∧ r ∈ u.refreshes ∧ r.cache = id ∧
      c = ⟨w.clock, r.frequency, c.devices⟩ := by
  obtain ⟨j, -, hj⟩ := List.exists_of_findSome?_eq_some h
  split at hj
  · cases hj
  · next hover =>
    obtain ⟨u, hu, hc⟩ := Option.bind_eq_some_iff.1 hj
    unfold Task.commit? at hc
    split at hc
    · next devices ho =>
      obtain ⟨r, hr, rfl⟩ := Option.map_eq_some_iff.1 hc
      obtain ⟨hmem, hid⟩ := List.mem_filter.1 (List.mem_of_getLast? hr)
      have hid : r.cache = id := by simpa using hid
      have hfetched : (w.step l).Fetched j id devices := fetched_of_task hu ho ⟨r, hmem, hid⟩
      have htask := hfetched.task?_eq fun ds hds => by
        obtain ⟨v, hv, ho, -⟩ := hds.exists_task
        simp [isOver, hv, isOver_of_outcome? ho] at hover
      exact ⟨j, u, r, htask, hu, ho, hmem, hid, rfl⟩
    · cases hc

theorem Outcome.eq_found {o : Outcome} {rs : List Refresh} {devices : List Device}
    (h : o.coveredBy rs = .found devices) : o = .found devices := by
  cases o with
  | found ds => rwa [Outcome.coveredBy_found] at h
  | failed f =>
    obtain ⟨f', hf⟩ := Outcome.coveredBy_failed rs f
    rw [hf] at h
    cases h
  | panicked text =>
    rw [Outcome.coveredBy_panicked] at h
    cases h

section
variable {w : World} {i : Nat} {t : Task} {s : Source}

/-- What a task of a canceled call commits to a cache was found by the source behind it without any
    interface. -/
theorem declines_of_commit? (hw : w.IsForest) (ht : w.tasks[i]? = some t) (hs : t.phase = .ready s)
    (hrs : t.refreshes = []) (hcomposed : s.IsComposed) (hcanceled : w.isCanceled t.scope)
    {labels : List Label} {l : Label} {j : Nat} (hl : l.task? = some j)
    (hj : (w.after labels).Beneath i j) {id : Nat} {c : Commit}
    (hc : (w.after labels).commit? l id = some c) :
    ∃ frequency metered inner, (Source.cached id frequency metered inner).Within s ∧
      inner.Declines (w.Finds (labels ++ [l])) (.found c.devices) ∧
      c = ⟨(w.after labels).clock, frequency, c.devices⟩ := by
  obtain ⟨j', u, r, hl', hu, ho, hr, rfl, heq⟩ := exists_refresh_of_commit? hc
  obtain rfl := Option.some.inj (hl.symm.trans hl')
  have hstep : (w.after labels).step l = w.after (labels ++ [l]) := (after_snoc w labels l).symm
  have hbelow := hj.step l
  rw [hstep] at hu hbelow
  obtain ⟨first, rest, v, sj, hlabels, hv, hsj, hvrs, hin, hscope⟩ :=
    exists_begun hw ht hs hrs hcanceled hbelow hu
  rw [hlabels, after_append] at hu
  have hends : ((w.after first).after rest).outcome? j = some (.found c.devices) := by
    rw [outcome?, hu]
    exact ho
  obtain ⟨mid, later, rs, base, ob, rfl, hcalls, hob, hfound, hwaits⟩ :=
    exists_base (fun m _ => declinesWhenCanceled m) hv hsj hvrs (hcomposed.of_within hin) hscope
      hends
  rw [hwaits u hu] at hr
  obtain rfl := Outcome.eq_found hfound.symm
  obtain ⟨outer, last, inner, -, houter, hread, hlast⟩ := hcalls.split hr
  refine ⟨r.frequency, r.metered, inner, houter.within.trans hin, ?_, heq⟩
  have hinner := hlast.declines
    (fun id reading h => ((finds_nil.2 h).of_after _ :
      (w.after first).Finds (mid ++ ([] ++ .run j :: later)) id reading)) hob
  rw [Outcome.coveredBy_found] at hinner
  refine hinner.mono fun id reading h => ?_
  rw [hlabels]
  simpa using h.of_after []

end

end World

namespace Source

/-- Whether a source asks an interface whatever caches hold: it is one, or one of its members
    does. -/
inductive AsksDirectly : Source → Prop where
  | self {asked : Interface} {metered : Bool} : AsksDirectly (.interface asked metered)
  | member {metered : Bool} {members : List Source} {m : Source} (hm : m ∈ members)
      (h : AsksDirectly m) : AsksDirectly (.fanOut metered members)

/-- Such a source finds nothing when its call is canceled. -/
theorem AsksDirectly.not_found {s : Source} (hs : s.AsksDirectly)
    {finds : Nat → Cache.Reading → Prop} {o : Outcome} (h : s.Declines finds o) :
    ∃ f, o = .failed f := by
  induction hs generalizing o with
  | self =>
    cases h
    exact ⟨_, rfl⟩
  | @member metered members m hm _ ih =>
    cases h with
    | @joint _ _ slots hlen h =>
      obtain ⟨k, hk, rfl⟩ := List.getElem_of_mem hm
      have hk' : k < slots.length := hlen ▸ hk
      obtain ⟨f, hf⟩ := ih (h k hk hk')
      obtain ⟨devices, causes, heq, -⟩ :=
        Outcome.merge_of_failed (hf ▸ List.getElem_mem hk' : .failed f ∈ slots)
      exact ⟨_, heq⟩

end Source

namespace World

/-! ## Calls which are canceled before they are made -/

/-- No task of a call which was canceled before it was made changes a cache. -/
def LeavesCaches (w₀ : World) (labels : List Label) : Prop :=
  ∀ (before mid later : List Label) (i j : Nat) (t : Task) (s : Source) (l : Label),
    labels = before ++ (mid ++ l :: later) → (w₀.after before).tasks[i]? = some t →
    t.phase = .ready s → s.IsComposed → (w₀.after before).isCanceled t.scope →
    l.task? = some j → (w₀.after (before ++ mid)).Beneath i j →
    (w₀.after (before ++ mid ++ [l])).caches = (w₀.after (before ++ mid)).caches

/-- **A call which was canceled before it was made is inert.**  Its tasks send no request, add to no
    count of requests, of failures of these or of devices, and change no token; and nothing has
    failed for the call but what was canceled.  They change a cache only if the source behind that
    one has found devices without any interface, because caches in it were fresh or a joint source
    has no members; so they change none if the sources behind all caches ask interfaces directly. -/
theorem inert_of_canceled {w₀ : World} (hw : w₀.tasks = []) {before mid : List Label} {i : Nat}
    {t : Task} {s : Source} (ht : (w₀.after before).tasks[i]? = some t) (hs : t.phase = .ready s)
    (hcomposed : s.IsComposed) (hcanceled : (w₀.after before).isCanceled t.scope) :
    (∀ l j, l.task? = some j → (w₀.after (before ++ mid)).Beneath i j →
      (w₀.after (before ++ mid ++ [l])).SameTraffic (w₀.after (before ++ mid)) ∧
      (∀ id, (w₀.after (before ++ mid ++ [l])).caches id = (w₀.after (before ++ mid)).caches id ∨
        ∃ frequency metered inner devices, (Source.cached id frequency metered inner).Within s ∧
          inner.Declines ((w₀.after before).Finds (mid ++ [l])) (.found devices) ∧
          (w₀.after (before ++ mid ++ [l])).caches id =
            .commit (w₀.after (before ++ mid)).clock frequency devices) ∧
      ((∀ id frequency metered inner, (Source.cached id frequency metered inner).Within s →
          inner.AsksDirectly) →
        (w₀.after (before ++ mid ++ [l])).caches = (w₀.after (before ++ mid)).caches)) ∧
    ∀ o, (w₀.after (before ++ mid)).outcome? i = some o → o.FailsOnlyCanceled := by
  have hrs := refreshes_of_isReady hw before ht (Task.isReady_iff.2 ⟨s, hs⟩)
  have hforest := (isForest_of_tasks hw).after before
  simp only [List.append_assoc, after_append w₀ before]
  generalize w₀.after before = w at *
  refine ⟨fun l j hl hj => ?_, fun o ho => ?_⟩
  · have hstep : w.after (mid ++ [l]) = (w.after mid).step l := after_snoc w mid l
    have hcaches : ∀ id, ((w.after mid).step l).caches id = (w.after mid).caches id ∨
        ∃ frequency metered inner devices, (Source.cached id frequency metered inner).Within s ∧
          inner.Declines (w.Finds (mid ++ [l])) (.found devices) ∧
          ((w.after mid).step l).caches id = .commit (w.after mid).clock frequency devices := by
      intro id
      rw [caches_step]
      cases hc : (w.after mid).commit? l id with
      | none => exact Or.inl rfl
      | some c =>
        obtain ⟨frequency, metered, inner, hin, hfound, heq⟩ :=
          declines_of_commit? hforest ht hs hrs hcomposed hcanceled hl hj hc
        exact Or.inr ⟨frequency, metered, inner, c.devices, hin, hfound, by rw [heq]; rfl⟩
    rw [hstep]
    refine ⟨?_, hcaches, fun hdirect => funext fun id => ?_⟩
    · exact sameTraffic_of_beneath hforest ht hs hrs hcomposed hcanceled hl hj
    · rcases hcaches id with h | ⟨frequency, metered, inner, devices, hin, hfound, -⟩
      · exact h
      · obtain ⟨f, hf⟩ := (hdirect id frequency metered inner hin).not_found hfound
        cases hf
  · exact (declinesWhenCanceled s w i t mid o ht hs hrs hcomposed hcanceled ho).failsOnlyCanceled

/-! ## A cache behind a cache -/

/-- The local node behind a cache, behind another one which expires before that one. -/
def doubled : Source :=
  .cached 0 (.ofSeconds 60) false (.cached 1 (.ofSeconds 90) false localNode)

theorem doubled_isComposed : doubled.IsComposed := by
  intro id h
  rcases h with _ | h
  rcases h with _ | h
  cases h

/-- A call which is answered with no devices, and another one a minute later which is canceled
    before it is made. -/
def renewed : List Label :=
  [.call doubled, .run 0, .reply 0 alone, .advance (.ofSeconds 60), .call doubled, .cancel 1]

/-- The outer cache is renewed by what the inner one has kept. -/
theorem not_leavesCaches : ¬ ({} : World).LeavesCaches (renewed ++ [.run 1]) := by
  intro h
  have hcaches := h renewed [] [] 1 1 _ _ (.run 1) rfl rfl rfl doubled_isComposed rfl rfl .self
  exact absurd (congrArg (fun caches : Nat → Cache => (caches 0).earliest) hcaches) (by decide)

theorem inert_of_canceled_renewed :
    (({} : World).after (renewed ++ [.run 1])).SameTraffic (({} : World).after renewed) ∧
    (({} : World).after (renewed ++ [.run 1])).caches 0 ≠ (({} : World).after renewed).caches 0 ∧
    ∃ frequency metered inner devices,
      (Source.cached 0 frequency metered inner).Within doubled ∧
      inner.Declines ((({} : World).after renewed).Finds [.run 1]) (.found devices) := by
  obtain ⟨hsteps, -⟩ :=
    @inert_of_canceled {} rfl renewed [] 1 _ _ rfl rfl doubled_isComposed rfl
  obtain ⟨htraffic, hcaches, -⟩ := hsteps (.run 1) 1 rfl .self
  have hne : (({} : World).after (renewed ++ [.run 1])).caches 0 ≠
      (({} : World).after renewed).caches 0 :=
    fun h => absurd (congrArg Cache.earliest h) (by decide)
  refine ⟨htraffic, hne, ?_⟩
  rcases hcaches 0 with h | ⟨frequency, metered, inner, devices, hin, hfound, -⟩
  · exact absurd h hne
  · exact ⟨frequency, metered, inner, devices, hin, hfound⟩

end World

end TailnetTargets
