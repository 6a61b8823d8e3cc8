/-
  What the counters show after a run of a joint source.

  * `World.OnlyCalls`: nothing but the joint source is called, and `World.CountsUp`: no counter wraps;
  * `isPart_after`: all tasks are parts of the joint source, and `World.HasFlatParents`: those which
    others were begun for are its calls;
  * `begunFor_of_not_isReady`: nothing is begun for a task which has called its source before;
  * `World.failuresOf`: how many of those which were begun for a task failed.  A call which has ended
    tells of as many failures (`causes_of_call`);
  * `World.Ledger`: the meters show the bills of all tasks, and there are as many members as were
    asked for (`ledger_after`).
-/
import Mathlib.Algebra.Order.BigOperators.Group.List
import Mathlib.Algebra.Order.Group.Nat
import Mathlib.Data.List.Induction
import TailnetTargets.Proofs.Discovery.Bill
import TailnetTargets.Proofs.Discovery.Nest

namespace TailnetTargets

/-- Whether a task has ended with a failure. -/
def Task.fails (t : Task) : Bool := t.outcome?.any fun o => o.failure?.isSome

/-! ## Lists -/

section
variable {α : Type} {l : List α} {i : Nat} {a b : α}

theorem sum_map_set (f : α → Nat) (h : l[i]? = some a) :
    ((l.set i b).map f).sum + f a = (l.map f).sum + f b := by
  induction l generalizing i with
  | nil => cases h
  | cons c l ih =>
    cases i with
    | zero =>
      cases h
      simp only [List.set_cons_zero, List.map_cons, List.sum_cons]
      omega
    | succ i =>
      have h' := ih h
      simp only [List.set_cons_succ, List.map_cons, List.sum_cons]
      omega

theorem countP_eq_sum (p : α → Bool) (l : List α) :
    l.countP p = (l.map fun a => if p a then 1 else 0).sum := by
  induction l with
  | nil => rfl
  | cons a l ih =>
    rw [List.countP_cons, List.map_cons, List.sum_cons, ih, Nat.add_comm]

theorem countP_set_of_eq {p : α → Bool} (h : l[i]? = some a) (hp : p b = p a) :
    (l.set i b).countP p = l.countP p := by
  have hset := sum_map_set (b := b) (fun a => if p a then 1 else 0) h
  rw [hp, ← countP_eq_sum, ← countP_eq_sum] at hset
  omega

/-- Counting the elements of a list is counting their positions. -/
theorem countP_eq_range (p : α → Bool) (l : List α) :
    l.countP p = (List.range l.length).countP fun j => l[j]?.any p := by
  induction l using List.reverseRecOn with
  | nil => rfl
  | append_singleton l a ih =>
    rw [List.countP_append, ih, List.length_append, List.length_singleton, List.range_succ,
      List.countP_append]
    congr 1
    · refine List.countP_congr fun j hj => ?_
      rw [List.getElem?_append_left (List.mem_range.1 hj)]
    · simp

end

namespace World

/-- Whether nothing but a joint source is called. -/
def OnlyCalls (labels : List Label) (source : Source) : Prop :=
  ∀ l ∈ labels, ∀ s, l.source? = some s → s = source

/-- Whether no counter wraps along a run: none of them goes down in a step. -/
def CountsUp (w₀ : World) (labels : List Label) : Prop :=
  ∀ k < labels.length, ∀ m, m ≠ .latencies →
    (w₀.after (labels.take k)).registry.reading m ≤
      (w₀.after (labels.take (k + 1))).registry.reading m

section
variable {w₀ : World} {labels : List Label} {l : Label}

theorem CountsUp.of_append (h : w₀.CountsUp (labels ++ [l])) : w₀.CountsUp labels := by
  intro k hk m hm
  have hup := h k (by simp; omega) m hm
  rwa [List.take_append_of_le_length (by omega), List.take_append_of_le_length hk] at hup

theorem CountsUp.last (h : w₀.CountsUp (labels ++ [l])) {m : Meter} (hm : m ≠ .latencies) :
    (w₀.after labels).registry.reading m ≤ (w₀.after (labels ++ [l])).registry.reading m := by
  have hup := h labels.length (by simp) m hm
  rwa [List.take_left, List.take_of_length_le (by simp)] at hup

end

/-! ## Parts -/

section
variable {w w' : World} {sources : List Source}

theorem Accounts.isPart (h : Accounts sources w w') (hparts : ∀ t ∈ w.tasks, t.IsPart sources) :
    ∀ t ∈ w'.tasks, t.IsPart sources := by
  intro t ht
  cases h with
  | stays htasks => exact hparts t (htasks ▸ ht)
  | calls htasks =>
    rw [htasks] at ht
    rcases List.mem_append.1 ht with ht | ht
    · exact hparts t ht
    · rw [List.mem_singleton.1 ht]
      exact .called
  | goes _ hpart _ htasks =>
    rw [htasks] at ht
    rcases List.mem_or_eq_of_mem_set ht with ht | rfl
    · exact hparts t ht
    · exact hpart
  | fansOut _ htasks =>
    rw [htasks] at ht
    rcases List.mem_append.1 ht with ht | ht
    · rcases List.mem_or_eq_of_mem_set ht with ht | rfl
      · exact hparts t ht
      · exact .gathering
    · obtain ⟨s, hs, rfl⟩ := List.mem_map.1 ht
      exact .begun hs

end

/-- Whoever was begun for a task was begun for a call from outside. -/
def HasFlatParents (w : World) : Prop :=
  ∀ t ∈ w.tasks, ∀ p, t.parent = some p → ∃ tp : Task, w.tasks[p]? = some tp ∧ tp.parent = none

/-- A member calls nothing for which other tasks are begun. -/
theorem not_calls_fanOut {w : World} {s : Source} (hs : s.IsCounted) {rs : List Refresh}
    {metered : Bool} {members : List Source} : ¬ w.Calls s rs (.fanOut metered members) := by
  obtain ⟨id, frequency, asked, rfl⟩ := hs
  rintro (_ | @⟨_, _, _, _, _, _, _, -, h⟩)
  cases h

theorem HasFlatParents.step {w : World} {sources : List Source} (h : w.HasFlatParents)
    (hsources : ∀ s ∈ sources, s.IsCounted) (hparts : ∀ t ∈ w.tasks, t.IsPart sources)
    (l : Label) : (w.step l).HasFlatParents := by
  have hkept : ∀ (p : Nat) (tp : Task), w.tasks[p]? = some tp → tp.parent = none →
      ∃ tp', (w.step l).tasks[p]? = some tp' ∧ tp'.parent = none := fun p tp htp hroot => by
    obtain ⟨tp', htp', hf⟩ := follows_step w l htp
    exact ⟨tp', htp', by rw [hf.parent, hroot]⟩
  intro t ht p hp
  obtain ⟨j, ht⟩ := List.getElem?_of_mem ht
  rcases Nat.lt_or_ge j w.tasks.length with hlt | hle
  · obtain ⟨u, hu, hf⟩ := task_of_step hlt ht
    obtain ⟨tp, htp, hroot⟩ := h u (List.mem_of_getElem? hu) p (by rw [← hf.parent, hp])
    exact hkept p tp htp hroot
  · rcases begun_step w l hle ht with ⟨hroot, -⟩ |
      ⟨i, ti, s, rs, metered, members, m, -, hti, hs, hc, -, rfl⟩
    · rw [hp] at hroot
      cases hroot
    · cases hp
      refine hkept p ti hti ?_
      cases hparts ti (List.mem_of_getElem? hti) with
      | called => rfl
      | begun hmember =>
        cases hs
        exact absurd hc (not_calls_fanOut (hsources _ hmember))
      | _ => cases hs

section
variable {w₀ : World} {sources : List Source} {labels : List Label}

theorem isPart_after (hw : w₀.tasks = []) (hsources : ∀ s ∈ sources, s.IsCounted)
    (hcalls : OnlyCalls labels (.fanOut true sources)) :
    ∀ t ∈ (w₀.after labels).tasks, t.IsPart sources := by
  induction labels using List.reverseRecOn with
  | nil =>
    intro t ht
    have ht' : t ∈ w₀.tasks := ht
    rw [hw] at ht'
    cases ht'
  | append_singleton labels l ih =>
    have hparts := ih fun l' hl' => hcalls l' (List.mem_append_left _ hl')
    rw [after_snoc]
    exact (step_accounts hsources hparts
      (hcalls l (List.mem_append_right _ (List.mem_singleton_self l)))).isPart hparts

theorem hasFlatParents_after (hw : w₀.tasks = []) (hsources : ∀ s ∈ sources, s.IsCounted)
    (hcalls : OnlyCalls labels (.fanOut true sources)) : (w₀.after labels).HasFlatParents := by
  induction labels using List.reverseRecOn with
  | nil =>
    intro t ht
    have ht' : t ∈ w₀.tasks := ht
    rw [hw] at ht'
    cases ht'
  | append_singleton labels l ih =>
    have hfirst : OnlyCalls labels (.fanOut true sources) := fun l' hl' =>
      hcalls l' (List.mem_append_left _ hl')
    rw [after_snoc]
    exact (ih hfirst).step hsources (isPart_after hw hsources hfirst) l

/-! ## Members which failed -/

/-- How many of the tasks which were begun for a task have failed. -/
def failuresOf (w : World) (i : Nat) : Nat :=
  w.tasks.countP fun t => t.parent = some i && t.fails

/-- Every task was begun in order to call a source. -/
theorem exists_begun_of_task (hw : w₀.tasks = []) {i : Nat} {t : Task}
    (ht : (w₀.after labels).tasks[i]? = some t) : ∃ s, w₀.Begun labels i s := by
  induction labels using List.reverseRecOn generalizing t with
  | nil =>
    have ht' : w₀.tasks[i]? = some t := ht
    rw [hw] at ht'
    cases ht'
  | append_singleton labels l ih =>
    rcases Nat.lt_or_ge i (w₀.after labels).tasks.length with hlt | hle
    · obtain ⟨s, hs⟩ := ih (List.getElem?_eq_getElem hlt)
      exact ⟨s, hs.append [l]⟩
    · rw [after_snoc] at ht
      obtain ⟨s, hs⟩ := Task.isReady_iff.1 (task_new_step _ l hle ht).1
      exact ⟨s, labels ++ [l], [], t, (List.append_nil _).symm, by rw [after_snoc]; exact ht, hs⟩

end

/-- Nothing is begun for a task which has called its source before. -/
theorem begunFor_of_not_isReady {w : World} (hw : w.IsForest) {i : Nat} {t : Task}
    (ht : w.tasks[i]? = some t) (hnot : ¬ t.isReady) (labels : List Label) :
    (w.after labels).begunFor i = w.begunFor i := by
  induction labels generalizing w t with
  | nil => rfl
  | cons l labels ih =>
    obtain ⟨t', ht', hf⟩ := follows_step w l ht
    have hstep : (w.step l).begunFor i = w.begunFor i := by
      have hafter : (w.step l).begunFor i = _ := begunFor_after w [l] i
      rw [hafter, List.filter_eq_nil_iff.2, List.append_nil]
      intro j hj
      have hle : w.tasks.length ≤ j := (List.mem_range'_1.1 hj).1
      cases hu : (w.after [l]).tasks[j]? with
      | none => simp
      | some u =>
        rcases begun_step w l hle hu with ⟨hroot, -⟩ |
          ⟨k, tk, s, rs, metered, members, m, -, htk, hs, -, -, rfl⟩
        · simp [hroot]
        · -- whoever begins tasks was about to call its source
          simp only [Option.bind_some, decide_eq_true_iff, Option.some.injEq]
          rintro rfl
          obtain rfl := Option.some.inj (ht.symm.trans htk)
          exact hnot (Task.isReady_iff.2 ⟨s, hs⟩)
    rw [after_cons, ih (hw.step l) ht' fun hr => hnot (hf.ready hr ▸ hr), hstep]

section
variable {w₀ : World} {sources : List Source} {labels : List Label}

/-- The tasks of members fail as often as there are failures among their outcomes. -/
theorem failuresOf_of_slots {w : World} {i first : Nat} {slots : List Outcome}
    (hbegun : w.begunFor i = List.range' first slots.length) (hslots : w.Slots first slots) :
    w.failuresOf i = (Outcome.failures slots).length := by
  have hfilter : w.failuresOf i = (w.begunFor i).countP fun j => w.tasks[j]?.any Task.fails := by
    rw [failuresOf, countP_eq_range, begunFor, List.countP_filter]
    refine List.countP_congr fun j _ => ?_
    cases w.tasks[j]? <;> simp [and_comm]
  rw [hfilter, hbegun, List.range'_eq_map_range, List.countP_map, Outcome.failures,
    List.length_filterMap_eq_countP, countP_eq_range _ slots]
  refine List.countP_congr fun k hk => ?_
  have hlt := List.mem_range.1 hk
  obtain ⟨u, hu, ho⟩ := Option.bind_eq_some_iff.1 (hslots k hlt)
  simp [hu, Task.fails, ho, List.getElem?_eq_getElem hlt]

/-- A call which has ended tells of as many failures as there are members of it which failed. -/
theorem causes_of_call (hw : w₀.tasks = []) (hsources : ∀ s ∈ sources, s.IsCounted)
    (hcalls : OnlyCalls labels (.fanOut true sources)) {i : Nat} {t : Task} {o : Outcome}
    (ht : (w₀.after labels).tasks[i]? = some t) (hroot : t.parent = none)
    (ho : t.outcome? = some o) :
    o.causes = (w₀.after labels).failuresOf i := by
  have ho' : (w₀.after labels).outcome? i = some o := by simp [outcome?, ht, ho]
  obtain ⟨s, hs⟩ := exists_begun_of_task hw ht
  obtain ⟨before, rest, t₀, rfl, ht₀, hs₀⟩ := hs.exists_run ho'
  have hforest := (isForest_of_tasks hw).after before
  have hsplit : w₀.after (before ++ .run i :: rest) = ((w₀.after before).run i).after rest :=
    after_append ..
  have hpart := isPart_after hw hsources
    (fun l hl => hcalls l (List.mem_append_left _ hl)) t₀ (List.mem_of_getElem? ht₀)
  have hparent : t₀.parent = none := by
    obtain ⟨t', ht', hf⟩ := follows_after _ (.run i :: rest) ht₀
    rw [← after_append, ht] at ht'
    obtain rfl := Option.some.inj ht'
    rw [← hf.parent, hroot]
  cases hpart with
  | @called scope =>
    have hc : (w₀.after before).Calls (.fanOut true sources) [] (.fanOut true sources) := .self _
    rw [hsplit] at ho' ⊢
    obtain ⟨slots, hlen, hslots, rfl⟩ := outcome_of_fanOut ht₀ rfl hc ho'
    have hbegun : (((w₀.after before).run i).after rest).begunFor i =
        List.range' (w₀.after before).tasks.length slots.length := by
      have hrun : ((w₀.after before).run i).IsForest := hforest.step (.run i)
      rw [begunFor_of_not_isReady hrun (gathering_of_fanOut ht₀ rfl hc) (by simp [Task.isReady]),
        hlen]
      exact begunFor_of_fanOut hforest ht₀ rfl hc
    rw [failuresOf_of_slots hbegun hslots]
    exact Outcome.causes_merge slots
  | begun => cases hparent
  | _ => cases hs₀

end

/-! ## The ledger -/

/-- The meters show the bills of all tasks, and there are as many members as were asked for. -/
structure Ledger (sources : List Source) (w : World) : Prop where
  parts : ∀ t ∈ w.tasks, t.IsPart sources
  shows : ∀ m, m ≠ .fanOuts → w.registry.reading m = (w.tasks.map (·.bill m)).sum
  asked : w.tasks.countP (·.parent.isSome) = sources.length * w.registry.reading .fanOuts

end World

namespace Task

variable {sources : List Source} {t : Task}

theorem IsPart.stale_le (h : t.IsPart sources) : t.bill .cacheStale ≤ t.bill .cacheRefreshes := by
  cases h with
  | @joined scope slots =>
    rw [bill_joined]
    exact Nat.le_refl _
  | asking => exact Nat.zero_le _
  | ended =>
    simp only [bill]
    split <;> simp
  | _ => exact Nat.le_refl _

theorem IsPart.refreshes_le (h : t.IsPart sources) :
    t.bill .cacheRefreshes ≤ t.bill .cacheRequests := by
  cases h <;> simp [bill, isReady]

theorem IsPart.bill_le_one (h : t.IsPart sources) {m : Meter} (hm : m ≠ .fanOutErrors) :
    t.bill m ≤ 1 := by
  have hrequests : t.bill .cacheRequests ≤ 1 := by
    simp only [bill]
    split <;> simp
  have hrefreshes := Nat.le_trans h.refreshes_le hrequests
  cases m with
  | fanOuts => exact Nat.zero_le _
  | fanOutErrors => exact absurd rfl hm
  | cacheRequests => exact hrequests
  | cacheRefreshes => exact hrefreshes
  | cacheStale => exact Nat.le_trans h.stale_le hrefreshes
  | latencies =>
    simp only [bill] at hrefreshes ⊢
    split
    · exact hrefreshes
    · exact Nat.zero_le _

/-- A member tells of no failure of a joint source. -/
theorem IsPart.errors_of_member (h : t.IsPart sources) (hp : t.parent.isSome) :
    t.bill .fanOutErrors = 0 := by
  cases h with
  | ended hr ho => exact ho.causes_covered _
  | begun => rfl
  | hit => rfl
  | asking => rfl
  | _ => cases hp

/-- Who fails has asked its source. -/
theorem IsPart.refreshes_of_fails (h : t.IsPart sources) (hp : t.parent.isSome) (hf : t.fails) :
    1 ≤ t.bill .cacheRefreshes := by
  cases h with
  | begun => cases hf
  | hit => cases hf
  | asking => cases hf
  | ended => exact Nat.le_refl _
  | _ => cases hp

end Task

namespace World

theorem countP_le_sum {α : Type} {l : List α} {p : α → Bool} {f : α → Nat}
    (h : ∀ a ∈ l, p a → 1 ≤ f a) : l.countP p ≤ (l.map f).sum := by
  rw [countP_eq_sum]
  refine List.sum_le_sum fun a ha => ?_
  split
  · next hp => exact h a ha hp
  · exact Nat.zero_le _

section
variable {w₀ : World} {sources : List Source} {labels : List Label}

/-- A call tells of no more failures than there were questions to caches. -/
theorem errors_le_requests (hw : w₀.tasks = []) (hsources : ∀ s ∈ sources, s.IsCounted)
    (hcalls : OnlyCalls labels (.fanOut true sources)) {i : Nat} {t : Task}
    (ht : (w₀.after labels).tasks[i]? = some t) :
    t.bill .fanOutErrors ≤ ((w₀.after labels).tasks.map (·.bill .cacheRequests)).sum := by
  have hparts := isPart_after hw hsources hcalls
  by_cases hp : t.parent.isSome
  · rw [(hparts t (List.mem_of_getElem? ht)).errors_of_member hp]
    exact Nat.zero_le _
  · cases ho : t.outcome? with
    | none =>
      rw [Task.bill, ho]
      exact Nat.zero_le _
    | some o =>
      rw [Task.bill, ho, Option.map_some, Option.getD_some,
        causes_of_call hw hsources hcalls ht (by simpa using hp) ho]
      refine countP_le_sum fun u hu hmember => ?_
      obtain ⟨hparent, hfails⟩ := (Bool.and_eq_true _ _).mp hmember
      have hsome : u.parent.isSome := by rw [of_decide_eq_true hparent]; rfl
      exact Nat.le_trans ((hparts u hu).refreshes_of_fails hsome hfails) (hparts u hu).refreshes_le

/-- How the bills of all tasks, and the number of members, change by an amount. -/
structure Totals (sources : List Source) (w w' : World) (amount : Meter → Nat) : Prop where
  bills : ∀ m, m ≠ .fanOuts →
    (w'.tasks.map (·.bill m)).sum = (w.tasks.map (·.bill m)).sum + amount m
  members : w'.tasks.countP (·.parent.isSome) =
    w.tasks.countP (·.parent.isSome) + sources.length * amount .fanOuts
  le_one : ∀ m, m ≠ .fanOutErrors → amount m ≤ 1
  errors : amount .fanOutErrors = 0 ∨
    ∃ t ∈ w'.tasks, amount .fanOutErrors ≤ t.bill .fanOutErrors

theorem Accounts.exists_totals {w w' : World} (h : Accounts sources w w') :
    ∃ amount, w.Adds w' amount ∧ Totals sources w w' amount := by
  cases h with
  | stays htasks hadds =>
    exact ⟨0, hadds, by simp [htasks], by simp [htasks], by simp, Or.inl rfl⟩
  | calls htasks hadds =>
    refine ⟨0, hadds, fun m _ => ?_, ?_, by simp, Or.inl rfl⟩
    · simp [htasks, Task.bill_called]
    · simp [htasks]
  | @goes i t t' amount ht hpart hparent htasks hbill hadds =>
    have hle : ∀ m, amount m ≤ t'.bill m := fun m => by
      rw [hbill]
      exact Nat.le_add_left ..
    have hzero : amount .fanOuts = 0 := Nat.le_zero.1 (hle .fanOuts)
    refine ⟨amount, hadds, fun m _ => ?_, ?_,
      fun m hm => Nat.le_trans (hle m) (hpart.bill_le_one hm), Or.inr ⟨t', ?_, hle _⟩⟩
    · have hset := sum_map_set (b := t') (·.bill m) ht
      rw [htasks]
      simp only [hbill, Pi.add_apply] at hset ⊢
      omega
    · rw [htasks, hzero]
      exact countP_set_of_eq ht (by rw [hparent])
    · rw [htasks]
      exact List.mem_set (List.getElem?_eq_some_iff.1 ht).1 ..
  | @fansOut i scope ht htasks hadds =>
    let t' : Task := ⟨scope, none, [], .gathering true w.tasks.length sources.length⟩
    refine ⟨_, hadds, fun m hm => ?_, ?_, fun m _ => ?_, Or.inl rfl⟩
    · have hset := sum_map_set (b := t') (·.bill m) ht
      have hmembers : ((memberTasks scope i sources).map (·.bill m)).sum = 0 := by
        simp [memberTasks, Task.bill_begun, Function.comp_def]
      simp only [Task.bill_called, t', Task.bill_gathering] at hset
      rw [htasks, List.map_append, List.sum_append, hmembers, Meter.one, if_neg hm]
      exact hset
    · have hmembers : (memberTasks scope i sources).countP (·.parent.isSome) = sources.length := by
        simp [memberTasks, List.countP_map, Function.comp_def]
      rw [htasks, List.countP_append, hmembers, Meter.one, if_pos rfl, Nat.mul_one]
      exact congrArg (· + sources.length) (countP_set_of_eq ht rfl)
    · rw [Meter.one]
      split <;> simp

/-- The meters go on to show the bills, as no call tells of more failures than there were questions
    to caches. -/
theorem Ledger.step {w w' : World} (h : w.Ledger sources) (ha : Accounts sources w w')
    (hup : ∀ m, m ≠ .latencies → w.registry.reading m ≤ w'.registry.reading m)
    (herrors : ∀ t ∈ w'.tasks,
      t.bill .fanOutErrors ≤ (w'.tasks.map (·.bill .cacheRequests)).sum) :
    w'.Ledger sources := by
  obtain ⟨amount, hadds, htotals⟩ := ha.exists_totals
  have hread : ∀ m, amount m < Registry.limit →
      w'.registry.reading m = w.registry.reading m + amount m := fun m hlt =>
    Registry.reading_of_adds hadds (hup m) hlt
  have hsmall : ∀ m, m ≠ .fanOutErrors → amount m < Registry.limit := fun m hm =>
    Nat.lt_of_le_of_lt (htotals.le_one m hm) (by simp [Registry.limit])
  have hrequests : (w'.tasks.map (·.bill .cacheRequests)).sum < Registry.limit := by
    rw [htotals.bills _ (by simp), ← h.shows _ (by simp), ← hread _ (hsmall _ (by simp))]
    exact w'.registry.reading_lt (by simp)
  have hall : ∀ m, amount m < Registry.limit := fun m => by
    by_cases hm : m = .fanOutErrors
    · subst hm
      rcases htotals.errors with hzero | ⟨t, ht, hle⟩
      · rw [hzero]
        simp [Registry.limit]
      · exact Nat.lt_of_le_of_lt (Nat.le_trans hle (herrors t ht)) hrequests
    · exact hsmall m hm
  refine ⟨ha.isPart h.parts, fun m hm => ?_, ?_⟩
  · rw [hread m (hall m), htotals.bills m hm, h.shows m hm]
  · rw [hread _ (hall _), htotals.members, h.asked, Nat.mul_add]

/-- **The meters show the bills of all tasks**, after every run in which no counter wraps. -/
theorem ledger_after (hw : w₀.tasks = []) (hregistry : w₀.registry = {})
    (hsources : ∀ s ∈ sources, s.IsCounted) (hcalls : OnlyCalls labels (.fanOut true sources))
    (hup : w₀.CountsUp labels) : (w₀.after labels).Ledger sources := by
  induction labels using List.reverseRecOn with
  | nil =>
    refine ⟨isPart_after hw hsources hcalls, fun m _ => ?_, ?_⟩
    · change w₀.registry.reading m = (w₀.tasks.map _).sum
      rw [hw, hregistry]
      cases m <;> rfl
    · change w₀.tasks.countP _ = _ * w₀.registry.reading _
      rw [hw, hregistry]
      rfl
  | append_singleton labels l ih =>
    have hfirst : OnlyCalls labels (.fanOut true sources) := fun l' hl' =>
      hcalls l' (List.mem_append_left _ hl')
    have hledger := ih hfirst hup.of_append
    have haccounts := step_accounts hsources hledger.parts
      (hcalls l (List.mem_append_right _ (List.mem_singleton_self l)))
    have hafter : w₀.after (labels ++ [l]) = (w₀.after labels).step l := after_snoc ..
    rw [← hafter] at haccounts
    refine hledger.step haccounts (fun m hm => hup.last hm) fun t ht => ?_
    obtain ⟨i, ht⟩ := List.getElem?_of_mem ht
    exact errors_le_requests hw hsources hcalls ht

end

end World

end TailnetTargets
