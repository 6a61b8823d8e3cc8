/-
  What is left of a refresh which finds no devices.

  * `Label.task?`: the task which something happens to;
  * `caches_of_beneath`: the tasks of a call which asked the source behind a cache change that cache
    only in the step in which the call ends with devices;
  * `caches_of_unfetched`: while nobody fetches devices, a cache stays as it is;
  * `refresh_atomic`: the call of an expired cache, whichever way it ends;
  * `flaky`, `failures`: calls which fail one after the other.
-/
import TailnetTargets.Proofs.Discovery.Forest
import TailnetTargets.Proofs.Discovery.Latest

namespace TailnetTargets

/-- The task which something happens to. -/
def Label.task? : Label → Option Nat
  | run i | reply i _ | cancel i | drop i => some i
  | _ => none

/-- An expired cache which stays as it is stays expired. -/
theorem Cache.read_of_le {c : Cache} {now later : Instant} {previous : Option (List Device)}
    (h : c.read now = .expired previous) (hle : now ≤ later) :
    c.read later = .expired previous := by
  unfold read at h ⊢
  split at h
  · next hnow =>
    have hlater : c.earliest ≤ later := Nat.le_trans hnow hle
    rw [if_pos hlater]
    exact h
  · cases h

namespace World

/-! ## Steps which change a cache -/

section
variable {w : World} {l : Label} {j id : Nat} {devices : List Device}

/-- Who fetches devices in a step is the task which the step happens to. -/
theorem Fetched.task?_eq (h : (w.step l).Fetched j id devices)
    (hnot : ∀ ds, ¬ w.Fetched j id ds) : l.task? = some j := by
  by_contra hne
  obtain ⟨t, ht, ho, hr⟩ := h.exists_task
  rcases Nat.lt_or_ge j w.tasks.length with hlt | hle
  · rw [tasks_step_of_ne w hlt (by rintro rfl; exact hne rfl) (by rintro r rfl; exact hne rfl)
      (by rintro rfl; exact hne rfl)] at ht
    exact hnot devices (fetched_of_task ht ho hr)
  · obtain ⟨s, hs⟩ := Task.isReady_iff.1 (task_new_step w l hle ht).1
    simp [Task.outcome?, hs] at ho

/-- What a step commits was fetched by the task which it happens to. -/
theorem fetched_of_task? {c : Commit} (h : w.commit? l id = some c) :
    ∃ j, l.task? = some j ∧ (w.step l).Fetched j id c.devices := by
  obtain ⟨j, hj, hnot⟩ := fetched_of_commit? h
  exact ⟨j, hj.task?_eq hnot, hj⟩

/-- A step which happens to a task takes no time. -/
theorem clock_of_task? (h : l.task? = some j) : (w.step l).clock = w.clock := by
  cases l with
  | run i =>
    rcases run_isTurn w i with h | ⟨t, -, -, rs, Ends, Waits, -, h⟩
    · exact congrArg World.clock h
    · exact h.clock
  | reply i r =>
    rcases reply_turn (w := w) (i := i) r with h | ⟨t, call, -, -, h⟩
    · exact congrArg World.clock h
    · exact h.clock
  | cancel i =>
    simp only [step, cancelTask]
    split <;> rfl
  | drop i =>
    simp only [step, drop]
    split
    · next t _ => exact (release_tasks w i t).1
    · rfl
  | _ => cases h

/-- While nobody fetches devices, a cache stays as it is. -/
theorem caches_of_unfetched {labels : List Label}
    (h : ∀ k ds, (w.after labels).Fetched k id ds → w.Fetched k id ds) :
    (w.after labels).caches id = w.caches id := by
  induction labels generalizing w with
  | nil => rfl
  | cons l labels ih =>
    have hnone : w.commit? l id = none := by
      by_contra hc
      obtain ⟨c, hc⟩ := Option.ne_none_iff_exists'.1 hc
      obtain ⟨k, hk, hnot⟩ := fetched_of_commit? hc
      exact hnot _ (h k _ (hk.after labels))
    rw [after_cons, ih fun k ds hk => (h k ds hk).after [l], caches_step, hnone]
    rfl

end

/-! ## Calls of an expired cache -/

section
variable {w : World} {i id : Nat} {t : Task} {s inner : Source} {rs : List Refresh}
  {frequency : Duration} {metered : Bool} {previous : Option (List Device)}

/-- The tasks of a call which asks the source behind a cache leave that cache as it is, unless the
    call ends with devices in that step. -/
theorem caches_of_beneath (hw : w.IsForest) (hone : w.HasOnly id frequency metered inner)
    (ht : w.tasks[i]? = some t) (hs : t.phase = .ready s)
    (hc : w.Calls s rs (.cached id frequency metered inner))
    (hr : (w.caches id).read w.clock = .expired previous) {labels first : List Label} {l : Label}
    (hl : .run i :: labels = first ++ [l])
    (hbelow : ∀ j, l.task? = some j → (w.after first).Beneath i j)
    (hnot : ∀ ds, (w.after (first ++ [l])).outcome? i ≠ some (.found ds)) :
    (w.after (first ++ [l])).caches id = (w.after first).caches id := by
  rw [after_append] at hnot ⊢
  cases hcommit : (w.after first).commit? l id with
  | none =>
    change ((w.after first).step l).caches id = _
    rw [caches_step, hcommit]
    rfl
  | some c =>
    obtain ⟨j, hj, hf⟩ := fetched_of_task? hcommit
    have hji : j ≠ i := by
      rintro rfl
      exact hnot _ hf.2
    cases first with
    | nil =>
      -- the step is the one in which the call asks the source
      cases hl
      exact absurd (Option.some.inj hj).symm hji
    | cons l' first =>
      obtain ⟨rfl, -⟩ := List.cons.inj hl
      have happart := apart_after hw hone ht hs hc hr (first ++ [l])
      rw [after_append] at happart
      obtain ⟨u, hu, -, r, hmem, hid⟩ := hf.exists_task
      exact absurd hid ((happart j u hji ((hbelow j hj).step l) hu).refreshes r hmem)

end

section
variable {w₀ : World} {before rest : List Label} {i id : Nat} {t : Task} {s inner : Source}
  {rs : List Refresh} {frequency : Duration} {metered : Bool} {previous : Option (List Device)}

/-- A call whose source ends with devices has fetched them in that step. -/
theorem fetched_of_endsAt {w : World} (hone : w.HasOnly id frequency metered inner)
    (ht : w.tasks[i]? = some t) (hs : t.phase = .ready s) (hrs : t.refreshes = [])
    (hc : w.Calls s rs (.cached id frequency metered inner))
    (hr : (w.caches id).read w.clock = .expired previous) {ds : List Device}
    (hends : w.EndsAt i inner rest (.found ds)) :
    ∃ first l, .run i :: rest = first ++ [l] ∧ (∀ ds, ¬ (w.after first).Fetched i id ds) ∧
      ((w.after first).step l).Fetched i id ds := by
  have hfetched : (w.after (.run i :: rest)).Fetched i id ds := by
    have hlt : i < (w.run i).tasks.length :=
      Nat.lt_of_lt_of_le (List.getElem?_eq_some_iff.1 ht).1 (length_le_step w (.run i))
    constructor
    · rw [after_cons, step, asked_after (fun u hu => not_isReady_of_run ht hu) hlt rest id,
        asked_of_expired hone ht hs hrs hc hr]
      exact Nat.one_pos
    · rw [after_cons, step, outcome?_of_expired ht hs hrs hc hr, hends.1]
      exact congrArg some (Outcome.coveredBy_found rs ds)
  rcases rest.eq_nil_or_concat with rfl | ⟨mid, l, rfl⟩
  · refine ⟨[], .run i, rfl, fun ds h => ?_, hfetched⟩
    obtain ⟨u, hu, ho, -⟩ := h.exists_task
    obtain rfl := Option.some.inj (ht.symm.trans hu)
    simp [Task.outcome?, hs] at ho
  · refine ⟨.run i :: mid, l, by simp, fun ds h => ?_, ?_⟩
    · have hnone : w.direct? i inner mid = none := by simpa using hends.2
      have hends := h.2
      rw [after_cons, step, outcome?_of_expired ht hs hrs hc hr, hnone] at hends
      cases hends
    · rwa [List.concat_eq_append, ← List.cons_append, after_append] at hfetched

/-- The devices with which a source ends are kept. -/
theorem caches_of_endsAt {w : World} (hone : w.HasOnly id frequency metered inner)
    (hlabels : OneCache (.run i :: rest) id (.cached id frequency metered inner))
    (ht : w.tasks[i]? = some t) (hs : t.phase = .ready s) (hrs : t.refreshes = [])
    (hc : w.Calls s rs (.cached id frequency metered inner))
    (hr : (w.caches id).read w.clock = .expired previous) {ds : List Device}
    (hends : w.EndsAt i inner rest (.found ds)) :
    (w.after (.run i :: rest)).caches id =
      .commit (w.after (.run i :: rest)).clock frequency ds := by
  obtain ⟨first, l, hsplit, hnot, hf⟩ := fetched_of_endsAt hone ht hs hrs hc hr hends
  have hstep : w.after (.run i :: rest) = (w.after first).step l := by
    rw [hsplit, after_append]
    rfl
  have hfreq : ∀ c ∈ w.commits id (first ++ [l]), c.frequency = frequency :=
    fun c => hone.frequency_of_mem_commits (hsplit ▸ hlabels)
  cases hcommit : (w.after first).commit? l id with
  | none => exact absurd (hf.of_step hcommit) (hnot ds)
  | some c =>
    -- it is the call itself which commits, and that in this step
    obtain ⟨j, hj, hjf⟩ := fetched_of_task? hcommit
    obtain rfl : j = i := Option.some.inj (hj.symm.trans (hf.task?_eq hnot))
    have hdevices : c.devices = ds := by
      have := hjf.2.symm.trans hf.2
      cases this
      rfl
    have hmem : c ∈ w.commits id (first ++ [l]) := by
      rw [commits_snoc, hcommit]
      exact List.mem_append_right _ (List.mem_singleton_self c)
    rw [hstep, caches_step, hcommit, Option.map_some, Option.getD_some, Commit.cache, hdevices,
      hfreq c hmem, time_of_commit? hcommit, clock_of_task? hj]

/-- **A refresh which finds no devices leaves nothing behind.**  Its call ends stale, with the
    devices which were kept when it came to the cache, or else as its source did.  None of its tasks
    changes the cache before it ends with devices.  While nobody finds any, everybody who comes to
    the cache asks the source again; and the devices which are found are kept from then on. -/
theorem refresh_atomic (hw : w₀.IsNew)
    (hone : OneCache (before ++ .run i :: rest) id (.cached id frequency metered inner))
    (ht : (w₀.after before).tasks[i]? = some t) (hs : t.phase = .ready s)
    (hc : (w₀.after before).Calls s rs (.cached id frequency metered inner))
    (hr : ((w₀.after before).caches id).read (w₀.after before).clock = .expired previous) :
    ((w₀.after before).caches id).last = previous ∧
    ((w₀.after (before ++ .run i :: rest)).outcome? i =
      match (w₀.after before).direct? i inner rest, previous with
      | some (.failed f), some kept => some ((Outcome.failed (.stale kept f)).coveredBy rs)
      | some (.failed f), none => some ((Outcome.failed f).coveredBy rs)
      | ended, _ => ended) ∧
    (∀ first l, .run i :: rest = first ++ [l] →
      (∀ j, l.task? = some j → (w₀.after (before ++ first)).Beneath i j) →
      (∀ ds, (w₀.after (before ++ first ++ [l])).outcome? i ≠ some (.found ds)) →
      (w₀.after (before ++ first ++ [l])).caches id = (w₀.after (before ++ first)).caches id) ∧
    ((∀ k ds, (w₀.after (before ++ .run i :: rest)).Fetched k id ds →
        (w₀.after before).Fetched k id ds) →
      ∀ (j : Nat) (tj : Task) (sj : Source) (rsj : List Refresh),
        (w₀.after (before ++ .run i :: rest)).tasks[j]? = some tj → tj.phase = .ready sj →
        (w₀.after (before ++ .run i :: rest)).Calls sj rsj (.cached id frequency metered inner) →
        ((w₀.after (before ++ .run i :: rest)).run j).asked j id = 1 ∧
        ∃ u : World, u.Agrees ((w₀.after (before ++ .run i :: rest)).pushAll j
            (⟨id, frequency, metered, previous⟩ :: rsj)) ∧
          (w₀.after (before ++ .run i :: rest)).run j = u.enter j tj.scope inner) ∧
    (∀ ds, (w₀.after before).EndsAt i inner rest (.found ds) →
      (w₀.after (before ++ .run i :: rest)).outcome? i = some (.found ds) ∧
      (w₀.after (before ++ .run i :: rest)).caches id =
        .commit (w₀.after (before ++ .run i :: rest)).clock frequency ds) := by
  have hbefore : (w₀.after before).HasOnly id frequency metered inner :=
    hw.hasOnly.after fun l hl => hone l (List.mem_append_left _ hl)
  have hrs := refreshes_of_isReady hw.tasks before ht (Task.isReady_iff.2 ⟨s, hs⟩)
  have hsplit : w₀.after (before ++ .run i :: rest) = (w₀.after before).after (.run i :: rest) :=
    after_append ..
  have hout : (w₀.after (before ++ .run i :: rest)).outcome? i =
      ((w₀.after before).direct? i inner rest).map fun o => (o.covered previous).coveredBy rs := by
    rw [hsplit]
    exact outcome?_of_expired ht hs hrs hc hr rest
  refine ⟨?_, ?_, ?_, ?_, ?_⟩
  · unfold Cache.read at hr
    split at hr <;> cases hr
    rfl
  · rw [hout]
    cases (w₀.after before).direct? i inner rest with
    | none => cases previous <;> rfl
    | some o =>
      cases o with
      | found ds => cases previous <;> exact congrArg some (Outcome.coveredBy_found rs ds)
      | failed f => cases previous <;> rfl
      | panicked text => cases previous <;> exact congrArg some (Outcome.coveredBy_panicked rs text)
  · intro first l hl hbelow hnot
    simp only [List.append_assoc, after_append w₀ before] at hbelow hnot ⊢
    exact caches_of_beneath ((isForest_of_tasks hw.tasks).after before) hbefore ht hs hc hr hl
      hbelow hnot
  · intro hun j tj sj rsj htj hsj hcj
    have hnow := hw.hasOnly.after hone
    have hrsj := refreshes_of_isReady hw.tasks _ htj (Task.isReady_iff.2 ⟨sj, hsj⟩)
    have hread : ((w₀.after (before ++ .run i :: rest)).caches id).read
        (w₀.after (before ++ .run i :: rest)).clock = .expired previous := by
      rw [hsplit] at hun ⊢
      rw [caches_of_unfetched hun]
      exact Cache.read_of_le hr (clock_le_after _ _)
    exact ⟨asked_of_expired hnow htj hsj hrsj hcj hread,
      run_eq htj hsj (hcj.trans (.through hread (.self _)))⟩
  · intro ds hends
    refine ⟨?_, ?_⟩
    · rw [hout, hends.1]
      exact congrArg some (Outcome.coveredBy_found rs ds)
    · rw [hsplit]
      exact caches_of_endsAt hbefore (fun l hl => hone l (List.mem_append_right _ hl)) ht hs hrs hc
        hr hends

end

/-! ## Calls which fail one after the other -/

/-- A world whose script finds a device, fails twice, and then finds another one. -/
def flaky : World where
  scripts _ := { cues := [{ outcome := .found [{ hostname := "a" }] },
    { outcome := .failed .canceled }, { outcome := .panicked "p" },
    { outcome := .found [{ hostname := "b" }] }] }

theorem flaky_isNew : flaky.IsNew := ⟨rfl, fun _ => rfl, fun _ => Nat.le_refl _⟩

/-- A call which finds a device, and another one after a minute. -/
def stocked : List Label := [.call minutely, .run 0, .advance (.ofSeconds 60), .call minutely]

/-- Two calls which fail, and one which has not read the cache yet. -/
def failures : List Label := [.run 1, .call minutely, .run 2, .call minutely]

theorem unfetched_failures : ∀ k ds, (flaky.after (stocked ++ failures)).Fetched k 0 ds →
    (flaky.after stocked).Fetched k 0 ds := by
  intro k ds h
  match k with
  | 0 => exact ⟨by decide, h.2⟩
  | 1 => cases h.2
  | 2 => cases h.2
  | 3 => cases h.2
  | k + 4 => cases h.2

theorem refresh_atomic_flaky :
    (flaky.after (stocked ++ failures)).outcome? 1 =
      some (.failed (.stale [{ hostname := "a" }] .canceled)) ∧
    ((flaky.after (stocked ++ failures)).run 3).asked 3 0 = 1 ∧
    (flaky.after (stocked ++ failures ++ [.run 3])).caches 0 =
      .commit (Instant.start.advance (.ofSeconds 60)) (.ofSeconds 60) [{ hostname := "b" }] := by
  have hone : ∀ labels : List Label, (∀ l ∈ labels, ∀ s, l.source? = some s → s = minutely) →
      OneCache labels 0 minutely := fun labels => oneCache_minutely
  have hfirst := @refresh_atomic flaky stocked failures.tail 1 0 _ _ _ _ _ _ _ flaky_isNew
    (hone _ (by simp [stocked, failures, Label.source?])) rfl rfl (.self _) rfl
  have hthird := @refresh_atomic flaky (stocked ++ failures) [] 3 0 _ _ _ _ _ _ _ flaky_isNew
    (hone _ (by simp [stocked, failures, Label.source?])) rfl rfl (.self _) rfl
  obtain ⟨-, hends, -, hretried, -⟩ := hfirst
  obtain ⟨-, -, -, -, hkept⟩ := hthird
  exact ⟨hends, (hretried unfetched_failures 3 _ _ _ rfl rfl (.self _)).1,
    (hkept _ ⟨rfl, Or.inl rfl⟩).2⟩

end World

end TailnetTargets
