/-
  What the counters of the daemon have to do with each other.

  * `Task.failsHard`: nothing stands in for the failure of a member;
  * `World.sum_failuresOf`: every member belongs to one call;
  * `World.sum_errors`: calls tell of the members which failed;
  * `World.conserved`: how often caches were asked, how often they asked their interfaces and how
    long that took, and how often that failed;
  * `Daemon.source_isCounted`: what the daemon serves is counted in this way.
-/
import Mathlib.Algebra.BigOperators.Group.Finset.Piecewise
import Mathlib.Algebra.Order.BigOperators.Group.Finset
import TailnetTargets.Daemon
import TailnetTargets.Proofs.Discovery.Decline
import TailnetTargets.Proofs.Discovery.Ledger

namespace TailnetTargets

/-- Whether a task has ended with a failure which nothing stands in for. -/
def Task.failsHard (t : Task) : Bool :=
  t.outcome?.any fun o => o.failure?.any fun failure => !failure.isStale

theorem Task.IsPart.fails_eq {sources : List Source} {t : Task} (h : t.IsPart sources) :
    (if t.parent.isSome && t.fails then 1 else 0) =
      t.bill .cacheStale + if t.parent.isSome && t.failsHard then 1 else 0 := by
  cases h with
  | @joined scope slots => rw [Task.bill_joined]; rfl
  | @ended scope p r o hr ho =>
    cases o with
    | failed failure =>
      cases hp : r.previous with
      | some devices => rfl
      | none => cases failure <;> first | rfl | cases ho
    | _ => cases r.previous <;> rfl
  | _ => rfl

/-- Of a member which is over, the meters show one question to its cache, and every question of the
    cache to its source took some time. -/
theorem Task.IsPart.bill_of_isOver {sources : List Source} {t : Task} (h : t.IsPart sources)
    (hover : t.parent.isSome → t.isOver) :
    t.bill .cacheRequests = (if t.parent.isSome then 1 else 0) ∧
      t.bill .latencies = t.bill .cacheRefreshes := by
  cases h with
  | begun => cases hover rfl
  | asking => cases hover rfl
  | _ => exact ⟨rfl, rfl⟩

/-! ## Calls and their members -/

theorem sum_map_eq_range {α : Type} (f : α → Nat) (l : List α) :
    (l.map f).sum = ∑ j ∈ Finset.range l.length, (l[j]?.map f).getD 0 := by
  induction l using List.reverseRecOn with
  | nil => rfl
  | append_singleton l a ih =>
    rw [List.map_append, List.sum_append, ih, List.length_append, List.length_singleton,
      Finset.sum_range_succ]
    congr 1
    · refine Finset.sum_congr rfl fun j hj => ?_
      rw [List.getElem?_append_left (Finset.mem_range.1 hj)]
    · simp

/-- Every member belongs to one call. -/
theorem World.sum_failuresOf {w : World} (hw : w.IsForest) :
    ∑ i ∈ Finset.range w.tasks.length, w.failuresOf i =
      w.tasks.countP fun t => t.parent.isSome && t.fails := by
  have hsum : ∀ tasks : List Task, (∀ t ∈ tasks, ∀ i, t.parent = some i → i < w.tasks.length) →
      ∑ i ∈ Finset.range w.tasks.length, tasks.countP (fun t => t.parent = some i && t.fails) =
        tasks.countP fun t => t.parent.isSome && t.fails := by
    intro tasks h
    induction tasks with
    | nil => simp
    | cons t tasks ih =>
      simp only [List.countP_cons, Finset.sum_add_distrib,
        ih fun u hu => h u (List.mem_cons_of_mem _ hu)]
      congr 1
      cases hp : t.parent with
      | none => simp
      | some i =>
        have hlt := h t (List.mem_cons_self ..) i hp
        cases t.fails <;> simp [hlt]
  refine hsum w.tasks fun t ht i hi => ?_
  obtain ⟨j, ht⟩ := List.getElem?_of_mem ht
  exact Nat.lt_trans (hw.lt j i t ht hi) (List.getElem?_eq_some_iff.1 ht).1

namespace World

section
variable {w₀ : World} {sources : List Source} {labels : List Label}

/-- A task tells of no more failures than there are tasks which were begun for it and failed, and of
    no fewer if it is a call which has ended. -/
theorem errors_of_task (hw : w₀.tasks = []) (hsources : ∀ s ∈ sources, s.IsCounted)
    (hcalls : OnlyCalls labels (.fanOut true sources)) {i : Nat} {t : Task}
    (ht : (w₀.after labels).tasks[i]? = some t) :
    t.bill .fanOutErrors ≤ (w₀.after labels).failuresOf i ∧
      ((t.parent = none → t.isReady ∨ t.outcome?.isSome) →
        t.bill .fanOutErrors = (w₀.after labels).failuresOf i) := by
  have hnone : (∀ u ∈ (w₀.after labels).tasks, u.parent ≠ some i) →
      (w₀.after labels).failuresOf i = 0 := fun h => by
    refine List.countP_eq_zero.2 fun u hu hfails => ?_
    exact h u hu (of_decide_eq_true ((Bool.and_eq_true _ _).mp hfails).1)
  cases hp : t.parent with
  | some p =>
    have hzero := hnone fun u hu hparent => by
      obtain ⟨ti, hti, hroot⟩ := hasFlatParents_after hw hsources hcalls u hu i hparent
      obtain rfl := Option.some.inj (ht.symm.trans hti)
      rw [hp] at hroot
      cases hroot
    have hbill := (isPart_after hw hsources hcalls t (List.mem_of_getElem? ht)).errors_of_member
      (by rw [hp]; rfl)
    exact ⟨by rw [hbill]; exact Nat.zero_le _, fun _ => by rw [hbill, hzero]⟩
  | none =>
    cases ho : t.outcome? with
    | some o =>
      have hcauses := causes_of_call hw hsources hcalls ht hp ho
      have hbill : t.bill .fanOutErrors = (w₀.after labels).failuresOf i := by
        rw [Task.bill, ho, ← hcauses]
        rfl
      exact ⟨Nat.le_of_eq hbill, fun _ => hbill⟩
    | none =>
      have hbill : t.bill .fanOutErrors = 0 := by
        rw [Task.bill, ho]
        rfl
      refine ⟨by rw [hbill]; exact Nat.zero_le _, fun hall => ?_⟩
      have hready : t.isReady := (hall rfl).resolve_right (by simp)
      rw [hbill, hnone fun u hu hparent => ?_]
      obtain ⟨j, hu⟩ := List.getElem?_of_mem hu
      exact ((isForest_of_tasks hw).after labels).called j i u t hu hparent ht hready

/-- The calls tell of the members which failed, and of all of them if every call which was begun has
    ended. -/
theorem sum_errors (hw : w₀.tasks = []) (hsources : ∀ s ∈ sources, s.IsCounted)
    (hcalls : OnlyCalls labels (.fanOut true sources)) :
    ((w₀.after labels).tasks.map (·.bill .fanOutErrors)).sum ≤
        (w₀.after labels).tasks.countP (fun t => t.parent.isSome && t.fails) ∧
      ((∀ t ∈ (w₀.after labels).tasks, t.parent = none → t.isReady ∨ t.outcome?.isSome) →
        ((w₀.after labels).tasks.map (·.bill .fanOutErrors)).sum =
          (w₀.after labels).tasks.countP (fun t => t.parent.isSome && t.fails)) := by
  rw [sum_map_eq_range, ← sum_failuresOf ((isForest_of_tasks hw).after labels)]
  have hget : ∀ i ∈ Finset.range (w₀.after labels).tasks.length,
      ∃ t, (w₀.after labels).tasks[i]? = some t := fun i hi =>
    ⟨_, List.getElem?_eq_getElem (Finset.mem_range.1 hi)⟩
  refine ⟨Finset.sum_le_sum fun i hi => ?_, fun hall => Finset.sum_congr rfl fun i hi => ?_⟩
  · obtain ⟨t, ht⟩ := hget i hi
    rw [ht]
    exact (errors_of_task hw hsources hcalls ht).1
  · obtain ⟨t, ht⟩ := hget i hi
    rw [ht]
    exact (errors_of_task hw hsources hcalls ht).2 (hall t (List.mem_of_getElem? ht))

/-- **What the counters of a joint source show** once all its members are over, also those of calls
    which were dropped.  Every call asked all caches, and it was measured how long each question of
    a cache to its interface took.  Caches stood in, and failures were told of, no more often than
    interfaces were asked.  If no call was dropped, all failures of members were told of: those for
    which caches stood in, and those which nothing stood in for. -/
theorem conserved (hw : w₀.tasks = []) (hregistry : w₀.registry = {})
    (hsources : ∀ s ∈ sources, s.IsCounted) (hcalls : OnlyCalls labels (.fanOut true sources))
    (hup : w₀.CountsUp labels)
    (hover : ∀ t ∈ (w₀.after labels).tasks, t.parent.isSome → t.isOver) :
    (w₀.after labels).registry.reading .cacheRequests =
        sources.length * (w₀.after labels).registry.reading .fanOuts ∧
      (w₀.after labels).registry.reading .latencies =
        (w₀.after labels).registry.reading .cacheRefreshes ∧
      (w₀.after labels).registry.reading .cacheStale ≤
        (w₀.after labels).registry.reading .cacheRefreshes ∧
      (w₀.after labels).registry.reading .cacheRefreshes ≤
        (w₀.after labels).registry.reading .cacheRequests ∧
      (w₀.after labels).registry.reading .fanOutErrors ≤
        (w₀.after labels).registry.reading .cacheRefreshes ∧
      ((∀ t ∈ (w₀.after labels).tasks, t.parent = none → t.isReady ∨ t.outcome?.isSome) →
        (w₀.after labels).registry.reading .fanOutErrors =
          (w₀.after labels).registry.reading .cacheStale +
            (w₀.after labels).tasks.countP fun t => t.parent.isSome && t.failsHard) := by
  have hledger := ledger_after hw hregistry hsources hcalls hup
  have herrors := sum_errors hw hsources hcalls
  have hparts := hledger.parts
  simp only [hledger.shows _ (by decide : Meter.cacheRequests ≠ .fanOuts),
    hledger.shows _ (by decide : Meter.latencies ≠ .fanOuts),
    hledger.shows _ (by decide : Meter.cacheRefreshes ≠ .fanOuts),
    hledger.shows _ (by decide : Meter.cacheStale ≠ .fanOuts),
    hledger.shows _ (by decide : Meter.fanOutErrors ≠ .fanOuts), ← hledger.asked]
  have hbills : ∀ t ∈ (w₀.after labels).tasks,
      t.bill .cacheRequests = (if t.parent.isSome then 1 else 0) ∧
        t.bill .latencies = t.bill .cacheRefreshes := fun t ht =>
    (hparts t ht).bill_of_isOver (hover t ht)
  refine ⟨?_, ?_, List.sum_le_sum fun t ht => (hparts t ht).stale_le,
    List.sum_le_sum fun t ht => (hparts t ht).refreshes_le, ?_, fun hall => ?_⟩
  · rw [countP_eq_sum]
    exact congrArg List.sum (List.map_congr_left fun t ht => (hbills t ht).1)
  · exact congrArg List.sum (List.map_congr_left fun t ht => (hbills t ht).2)
  · refine Nat.le_trans herrors.1 (countP_le_sum fun t ht hfails => ?_)
    obtain ⟨hmember, hfails⟩ := (Bool.and_eq_true _ _).mp hfails
    exact (hparts t ht).refreshes_of_fails hmember hfails
  · rw [herrors.2 hall, countP_eq_sum, countP_eq_sum, ← List.sum_map_add]
    exact congrArg List.sum (List.map_congr_left fun t ht => (hparts t ht).fails_eq)

end

end World

/-! ## What the daemon serves -/

/-- What the daemon serves is a joint source of caches, and all of these and what they ask are
    counted. -/
theorem Daemon.source_isCounted (pollLimit : Duration) (origins : List Origin) :
    ∃ members, source pollLimit origins = .fanOut true members ∧
      members.length = origins.length ∧ ∀ s ∈ members, s.IsCounted := by
  refine ⟨_, rfl, by simp, fun s hs => ?_⟩
  obtain ⟨entry, -, rfl⟩ := List.mem_map.1 hs
  exact ⟨_, _, _, rfl⟩

namespace World

/-! ## Two nodes -/

/-- What a daemon serves which finds two local nodes. -/
def twoNodes : Source := Daemon.source (.ofSeconds 60) [.localApi "/a", .localApi "/b"]

/-- Three calls.  The second node never answers.  The first one answers the first call, the second
    call finds what its cache holds, and in the third one, a minute later, that stands in for what
    the node does not answer. -/
def threeCalls : List Label :=
  [.call twoNodes, .run 0, .run 1, .run 2, .reply 1 alone, .reply 2 .refused, .run 0,
    .call twoNodes, .run 3, .run 4, .run 5, .reply 5 .refused, .run 3, .advance (.ofSeconds 60),
    .call twoNodes, .run 6, .run 7, .run 8, .reply 7 .dropped, .reply 8 .refused, .run 6]

theorem threeCalls_countsUp : ({} : World).CountsUp threeCalls := by
  intro k hk m hm
  revert k
  cases m <;> first | contradiction | decide +kernel

/-- Six questions to caches, five of which were asked of the nodes, and four failures, for one of
    which a cache stands in. -/
theorem conserved_threeCalls :
    (({} : World).after threeCalls).registry.reading .cacheRequests = 2 * 3 ∧
      (({} : World).after threeCalls).registry.reading .latencies = 5 ∧
      (({} : World).after threeCalls).registry.reading .fanOutErrors = 1 + 3 := by
  obtain ⟨members, hsource, hlength, hmembers⟩ :=
    Daemon.source_isCounted (.ofSeconds 60) [.localApi "/a", .localApi "/b"]
  have hcalls : OnlyCalls threeCalls (.fanOut true members) := by
    rw [← hsource]
    simp [OnlyCalls, threeCalls, Label.source?, twoNodes]
  have hover : ∀ t ∈ (({} : World).after threeCalls).tasks, t.parent.isSome → t.isOver := by
    decide +kernel
  obtain ⟨hrequests, hlatencies, -, -, -, herrors⟩ :=
    @conserved {} _ _ rfl rfl hmembers hcalls threeCalls_countsUp hover
  rw [hrequests, hlatencies, herrors (by decide +kernel), hlength]
  decide +kernel

end World

end TailnetTargets
