/-
  Errors and requests.

  * `World.awaiting`: how many counted calls wait for a reply of an endpoint;
  * `World.Balanced`: what is noted of errors, with the calls which wait, is no more than what is
    noted of requests, with the calls which waited before.  `step_balanced`: so it is in every step;
  * `raised_le`: along a run errors never outnumber requests, and the counters show no more while
    they do not wrap (`shown_le`);
  * `calls_accounted`: every call which has ended has added its requests, its result and its
    latency, once, and errors never outnumber requests;
  * `asking`, `garbled`: a client which is given a token, and then an answer without devices.
-/
import TailnetTargets.Proofs.Discovery.Charge
import TailnetTargets.Proofs.Discovery.Ledger

namespace TailnetTargets

/-- How many replies of an endpoint a call waits for, if it is counted. -/
def Call.awaits (endpoint : Endpoint) (call : Call) : Nat :=
  if call.metered ∧ call.asked.endpoint = endpoint then call.stage.awaits else 0

/-- How many replies of an endpoint a task waits for, if its call is counted. -/
def Phase.awaits (endpoint : Endpoint) : Phase → Nat
  | calling call => call.awaits endpoint
  | _ => 0

theorem Call.added_noted (call : Call) (events : List Event) (c : Counter) :
    added c (call.noted events) = if call.metered then added c events else 0 := by
  unfold noted
  split <;> rfl

namespace World

/-- How many counted calls wait for a reply of an endpoint. -/
def awaiting (w : World) (endpoint : Endpoint) : Nat :=
  (w.tasks.map (·.phase.awaits endpoint)).sum

/-! ## What is noted of errors and requests -/

/-- Errors which are noted, and calls which wait, are no more than requests which are noted, and
    calls which waited before. -/
def Balanced (w w' : World) : Prop :=
  ∃ noted, w.Notes w' noted ∧ ∀ endpoint, added (.requests endpoint) noted ≤ 2 ∧
    added (.requestErrors endpoint) noted + added (.payloadErrors endpoint) noted +
        w'.awaiting endpoint ≤
      added (.requests endpoint) noted + w.awaiting endpoint

section
variable {w v w' : World} {i : Nat} {t : Task}

theorem Balanced.of_notes (hnotes : w.Notes w' [])
    (h : ∀ endpoint, w'.awaiting endpoint ≤ w.awaiting endpoint) : w.Balanced w' :=
  ⟨[], hnotes, fun endpoint => ⟨Nat.zero_le _, by simpa using h endpoint⟩⟩

theorem Balanced.of_tasks (hnotes : w.Notes w' []) (h : w'.tasks = w.tasks) : w.Balanced w' :=
  .of_notes hnotes fun endpoint => by rw [awaiting, h]; rfl

theorem Balanced.refl (w : World) : w.Balanced w := .of_tasks (.of_registry rfl) rfl

theorem Balanced.after (hnotes : w.Notes v [])
    (hawaiting : ∀ endpoint, v.awaiting endpoint = w.awaiting endpoint) (h : v.Balanced w') :
    w.Balanced w' := by
  obtain ⟨noted, hnoted, hle⟩ := h
  exact ⟨noted, hnotes.after hnoted, fun endpoint => by rw [← hawaiting]; exact hle endpoint⟩

theorem awaiting_setPhase (ht : w.tasks[i]? = some t) (phase : Phase) (endpoint : Endpoint) :
    (w.setPhase i phase).awaiting endpoint + t.phase.awaits endpoint =
      w.awaiting endpoint + phase.awaits endpoint := by
  rw [awaiting, setPhase, modify_eq_set ht]
  exact sum_map_set (fun t => t.phase.awaits endpoint) ht

/-- Who waits for nothing is not one of those who wait. -/
theorem awaiting_setPhase_le {phase : Phase} {endpoint : Endpoint}
    (h : phase.awaits endpoint = 0) :
    (w.setPhase i phase).awaiting endpoint ≤ w.awaiting endpoint := by
  cases ht : w.tasks[i]? with
  | none =>
    rw [awaiting, setPhase, List.modify_eq_self (List.getElem?_eq_none_iff.1 ht)]
    exact Nat.le_refl _
  | some t =>
    have hset := awaiting_setPhase ht phase endpoint
    omega

theorem finish_awaiting (w : World) (i : Nat) (o : Outcome) (endpoint : Endpoint) :
    (w.finish i o).awaiting endpoint ≤ w.awaiting endpoint := by
  rw [awaiting, (finish_agrees w i o).tasks]
  exact awaiting_setPhase_le rfl

theorem finish_balanced (w : World) (i : Nat) (o : Outcome) : w.Balanced (w.finish i o) :=
  .of_notes (w.finish_notes i o) (w.finish_awaiting i o)

theorem awaiting_of_tasks (h : w'.tasks = w.tasks) (endpoint : Endpoint) :
    w'.awaiting endpoint = w.awaiting endpoint := by rw [awaiting, h]; rfl

/-- A call which sends a request may wait for its reply, and a call which waited may end with an
    error. -/
theorem Proceeds.balanced {call : Call} (ht : w.tasks[i]? = some t)
    (hcall : ∀ endpoint, call.awaits endpoint ≤ t.phase.awaits endpoint)
    (h : Proceeds call w i w') : w.Balanced w' := by
  cases h with
  | @waits stage requests htasks hasked hawaits hnotes hsent =>
    refine ⟨_, hnotes, fun endpoint => ?_⟩
    have htwo := Nat.le_trans (Nat.le_trans (Nat.le_add_left ..) hasked) stage.asked_le
    have hset := awaiting_setPhase ht (.calling { call with stage }) endpoint
    have hold := hcall endpoint
    rw [awaiting_of_tasks htasks]
    simp only [Phase.awaits, Call.awaits, Call.added_noted, added_requests, Counter.requests.injEq,
      reduceCtorEq, if_false] at hset hold ⊢
    grind
  | @ends result requests elapsed htasks hasked hawaits hplain hnotes hsent =>
    refine ⟨_, hnotes, fun endpoint => ?_⟩
    have hset := awaiting_setPhase ht
      (.finished ((Outcome.ofExcept result).coveredBy (w.refreshesOf i))) endpoint
    have hold := hcall endpoint
    rw [awaiting_of_tasks htasks]
    simp only [Phase.awaits, Call.awaits, Call.added_noted, added_append, added_requests,
      added_closing, Interface.charge, Counter.requests.injEq, reduceCtorEq, if_false]
      at hset hold ⊢
    grind

theorem pushRefresh_awaiting (w : World) (i : Nat) (r : Refresh) (endpoint : Endpoint) :
    (w.pushRefresh i r).awaiting endpoint = w.awaiting endpoint := by
  refine congrArg List.sum (List.ext_getElem? fun j => ?_)
  rw [pushRefresh, List.getElem?_map, List.getElem?_modify, List.getElem?_map]
  split <;> cases w.tasks[j]? <;> rfl

theorem enter_balanced (i : Nat) (scope : Scope) : ∀ (s : Source) (w : World),
    i < w.tasks.length → w.Balanced (w.enter i scope s)
  | .scripted id, w, _ => by
    rw [enter, perform]
    dsimp only
    split
    · exact .after (.of_registry rfl) (fun _ => rfl) (finish_balanced _ i _)
    · exact .of_notes (.of_registry rfl) fun endpoint => awaiting_setPhase_le rfl
  | .interface asked metered, w, hlt => by
    have hcall (endpoint : Endpoint) :
        Call.awaits endpoint ⟨asked, metered, w.tokenClock, .turn⟩ = 0 := ite_self 0
    exact Proceeds.balanced (List.getElem?_eq_getElem hlt)
      (fun endpoint => (hcall endpoint).symm ▸ Nat.zero_le _)
      (w.interface_proceeds i scope asked metered)
  | .cached id frequency metered inner, w, hlt => by
    rw [enter]
    split
    · exact .after (w.count_notes_nil metered rfl)
        (awaiting_of_tasks (w.count_agrees metered _).tasks) (finish_balanced _ i _)
    · next previous _ =>
      let v := w.count metered [.cacheRequest, .cacheRefresh]
      have htasks : v.tasks = w.tasks := (w.count_agrees metered _).tasks
      let v' := v.pushRefresh i ⟨id, frequency, metered, previous⟩
      have hnotes : w.Notes v' [] := (w.count_notes_nil metered rfl).then (.of_registry rfl)
      have hlt' : i < v'.tasks.length := by
        rw [← htasks] at hlt
        simpa [v', pushRefresh] using hlt
      refine .after hnotes (fun endpoint => ?_) (enter_balanced i scope inner v' hlt')
      rw [pushRefresh_awaiting, awaiting_of_tasks htasks]
  | .fanOut metered members, w, _ => by
    let v := w.count metered [.fanOut]
    have htasks : v.tasks = w.tasks := (w.count_agrees metered _).tasks
    have hnotes : w.Notes (w.enter i scope (.fanOut metered members)) [] :=
      (w.count_notes_nil metered rfl).then (.of_registry rfl)
    refine .of_notes hnotes fun endpoint => ?_
    have hready : ((memberTasks scope i members).map (·.phase.awaits endpoint)).sum = 0 := by
      simp [memberTasks, Phase.awaits, Function.comp_def]
    have henter : (w.enter i scope (.fanOut metered members)).tasks =
        (v.setPhase i (.gathering metered v.tasks.length members.length)).tasks ++
          memberTasks scope i members := rfl
    rw [awaiting, henter, List.map_append, List.sum_append, hready, ← awaiting_of_tasks htasks]
    exact awaiting_setPhase_le rfl

theorem run_balanced (w : World) (i : Nat) : w.Balanced (w.run i) := by
  cases ht : w.tasks[i]? with
  | none =>
    rw [run, ht]
    exact .refl w
  | some t =>
    cases hp : t.phase with
    | ready s =>
      have hrun : w.run i = w.enter i t.scope s := by simp only [run, ht, hp]
      rw [hrun]
      exact enter_balanced i t.scope s w (List.getElem?_eq_some_iff.1 ht).1
    | paused pause =>
      simp only [run, ht, hp]
      split
      · exact .after (.of_registry rfl) (fun _ => rfl) (finish_balanced _ i _)
      · split
        · exact w.finish_balanced i _
        · exact .refl w
    | calling call =>
      rcases run_proceeds ht hp with h | h
      · rw [h]
        exact .refl w
      · exact h.balanced ht fun endpoint => by rw [hp]; exact Nat.le_refl _
    | gathering metered first count =>
      simp only [run, ht, hp]
      split
      · next slots _ =>
        have hnone : ((Outcome.failures slots).map fun _ => Event.fanOutError).filter
            Event.isOfCall = [] := by
          simp [Event.isOfCall, Event.isTraffic, Event.increment?, Counter.isTraffic, Event.span?]
        exact .after (w.count_notes_nil metered hnone)
          (awaiting_of_tasks (w.count_agrees metered _).tasks) (finish_balanced _ i _)
      · exact .refl w
    | _ =>
      rw [run_of_isOver ht (by simp [Task.isOver, hp])]
      exact .refl w

theorem begin_balanced (w : World) (scope : Scope) (s : Source) :
    w.Balanced (w.begin scope s) :=
  .of_notes (.of_registry rfl) fun endpoint => by simp [awaiting, begin, Phase.awaits]

theorem reply_balanced (w : World) (i : Nat) (r : Reply) : w.Balanced (w.reply i r) := by
  by_cases hcalling : ∃ t call, w.tasks[i]? = some t ∧ t.phase = .calling call
  · obtain ⟨t, call, ht, hp⟩ := hcalling
    rcases reply_proceeds ht hp r with h | h
    · rw [h]
      exact .refl w
    · exact h.balanced ht fun endpoint => by rw [hp]; exact Nat.le_refl _
  · have hsame : w.reply i r = w := by
      unfold reply
      split
      · next ht => exact absurd ⟨_, _, ht, rfl⟩ hcalling
      · rfl
    rw [hsame]
    exact .refl w

theorem drop_balanced (w : World) (i : Nat) : w.Balanced (w.drop i) := by
  refine .of_notes (.of_registry (w.drop_registry i)) fun endpoint => ?_
  cases hr : w.root? i with
  | none => rw [drop_of_none hr]
  | some t =>
    rw [drop_of_root hr, awaiting, close, (w.release_tasks i t).2.2]
    split
    · exact Nat.le_refl _
    · exact awaiting_setPhase_le rfl

/-- **No step notes more errors than requests and calls which waited.** -/
theorem step_balanced (w : World) (l : Label) : w.Balanced (w.step l) := by
  cases l with
  | call s => exact w.begin_balanced _ s
  | serve s => exact w.begin_balanced _ s
  | run i => exact w.run_balanced i
  | reply i r => exact w.reply_balanced i r
  | cancel i =>
    rw [step, cancelTask]
    split <;> exact .of_tasks (.of_registry rfl) rfl
  | drop i => exact w.drop_balanced i
  | _ => exact .of_tasks (.of_registry rfl) rfl

end

/-! ## Runs -/

/-- Errors and calls which wait never outnumber requests and calls which waited before. -/
theorem raised_le (w : World) (labels : List Label) (endpoint : Endpoint) :
    w.raised (.requestErrors endpoint) labels + w.raised (.payloadErrors endpoint) labels +
        (w.after labels).awaiting endpoint ≤
      w.raised (.requests endpoint) labels + w.awaiting endpoint := by
  induction labels generalizing w with
  | nil => exact Nat.le_refl _
  | cons l labels ih =>
    obtain ⟨noted, hnotes, hle⟩ := w.step_balanced l
    obtain ⟨htwo, hle⟩ := hle endpoint
    have hrest := ih (w.step l)
    have hrequests : w.raise l (.requests endpoint) = added (.requests endpoint) noted := by
      rw [hnotes.raise rfl]
      exact Nat.mod_eq_of_lt (Nat.lt_of_le_of_lt htwo (by decide))
    have hrequestErrors :
        w.raise l (.requestErrors endpoint) ≤ added (.requestErrors endpoint) noted := by
      rw [hnotes.raise rfl]
      exact Nat.mod_le ..
    have hpayloadErrors :
        w.raise l (.payloadErrors endpoint) ≤ added (.payloadErrors endpoint) noted := by
      rw [hnotes.raise rfl]
      exact Nat.mod_le ..
    simp only [raised, sumAlong, after_cons] at hrest ⊢
    omega

/-- A counter shows what it showed and what a run has raised, but for what wraps. -/
theorem shown_after (w : World) (labels : List Label) (c : Counter) :
    (w.after labels).registry.shown c =
      w.registry.shown c + UInt64.ofNat (w.raised c labels) := by
  induction labels generalizing w with
  | nil => exact (UInt64.add_zero _).symm
  | cons l labels ih =>
    have hraised : w.raised c (l :: labels) = w.raise l c + (w.step l).raised c labels := rfl
    rw [after_cons, ih, hraised, UInt64.ofNat_add, raise, UInt64.ofNat_toNat, ← UInt64.add_assoc,
      UInt64.add_comm (w.registry.shown c), UInt64.sub_add_cancel]

theorem awaiting_nil {w : World} (hw : w.tasks = []) (endpoint : Endpoint) :
    w.awaiting endpoint = 0 := by
  rw [awaiting, hw]
  rfl

/-- What the counters show of errors is no more than what they show of requests, while the latter do
    not wrap. -/
theorem shown_le {w₀ : World} (hw : w₀.tasks = []) (hregistry : w₀.registry = {})
    {labels : List Label} {endpoint : Endpoint}
    (hlt : w₀.raised (.requests endpoint) labels < Registry.limit) :
    ((w₀.after labels).registry.shown (.requestErrors endpoint)).toNat +
        ((w₀.after labels).registry.shown (.payloadErrors endpoint)).toNat ≤
      ((w₀.after labels).registry.shown (.requests endpoint)).toNat := by
  have hshown (c : Counter) :
      ((w₀.after labels).registry.shown c).toNat = w₀.raised c labels % Registry.limit := by
    have hzero : w₀.registry.shown c = 0 := by rw [hregistry]; rfl
    rw [shown_after, hzero, UInt64.zero_add]
    exact UInt64.toNat_ofNat'
  have hle := w₀.raised_le labels endpoint
  rw [awaiting_nil hw, Nat.add_zero] at hle
  rw [hshown, hshown, hshown, Nat.mod_eq_of_lt hlt]
  calc w₀.raised (.requestErrors endpoint) labels % Registry.limit +
        w₀.raised (.payloadErrors endpoint) labels % Registry.limit
      ≤ w₀.raised (.requestErrors endpoint) labels + w₀.raised (.payloadErrors endpoint) labels :=
        Nat.add_le_add (Nat.mod_le ..) (Nat.mod_le ..)
    _ ≤ w₀.raised (.requests endpoint) labels := Nat.le_trans (Nat.le_add_right ..) hle

/-- **Counters tell of every call of an interface.**  Whatever happens, a counted call which has
    ended, perhaps behind some caches, has measured one latency of its endpoint.  It has counted the
    requests which it issued, two at most, and one error if it ended with one of its request or of
    its payload; a call of the public interface which found devices has counted them.  It has added
    to no other counters of requests, errors and devices.  Hence no run counts more errors at an
    endpoint than requests, and the counters show no more while those of requests do not wrap. -/
theorem calls_accounted {w₀ : World} (hw : w₀.tasks = []) :
    (∀ (before rest : List Label) (i : Nat) (t : Task) (s : Source) (rs : List Refresh)
        (asked : Interface) (o : Outcome), (w₀.after before).tasks[i]? = some t →
      t.phase = .ready s → (w₀.after before).Calls s rs (.interface asked true) →
      (w₀.after (before ++ .run i :: rest)).outcome? i = some o →
      ∃ result, o = (Outcome.ofExcept result).coveredBy rs ∧ (Outcome.ofExcept result).IsPlain ∧
        Charged (w₀.after before) i asked result (.run i :: rest)) ∧
    ∀ (labels : List Label) (endpoint : Endpoint),
      w₀.raised (.requestErrors endpoint) labels + w₀.raised (.payloadErrors endpoint) labels ≤
        w₀.raised (.requests endpoint) labels ∧
      (w₀.registry = {} → w₀.raised (.requests endpoint) labels < Registry.limit →
        ((w₀.after labels).registry.shown (.requestErrors endpoint)).toNat +
            ((w₀.after labels).registry.shown (.payloadErrors endpoint)).toNat ≤
          ((w₀.after labels).registry.shown (.requests endpoint)).toNat) := by
  refine ⟨fun before rest i t s rs asked o ht hs hc ho => ?_, fun labels endpoint => ⟨?_, ?_⟩⟩
  · have hrs := refreshes_of_isReady hw before ht (Task.isReady_iff.2 ⟨s, hs⟩)
    rw [after_append] at ho
    exact (stands_after ht hs hrs hc rest).charged ho
  · have hle := w₀.raised_le labels endpoint
    rw [awaiting_nil hw, Nat.add_zero] at hle
    exact Nat.le_trans (Nat.le_add_right ..) hle
  · exact fun hregistry hlt => shown_le hw hregistry hlt

/-- A call from outside of a client which is counted. -/
def asking : List Label := [.call (.interface (.publicApi 0 clerk) true)]

/-- A token is given out, and then comes an answer without devices. -/
def garbled : List Label := [.reply 0 hundred, .reply 0 (.answered 200 [] true)]

theorem calls_accounted_garbled :
    (({} : World).after asking).raisedBy 0 (.requests clerk.endpoint) (.run 0 :: garbled) = 2 ∧
    (({} : World).after asking).raisedBy 0 (.payloadErrors clerk.endpoint) (.run 0 :: garbled) = 1 ∧
    (({} : World).after asking).raisedBy 0 (.requestErrors clerk.endpoint) (.run 0 :: garbled) = 0 ∧
    (({} : World).after asking).timedBy 0 clerk.endpoint (.run 0 :: garbled) = 1 := by
  have hends : ((({} : World).after (asking ++ .run 0 :: garbled)).outcome? 0).map
      (fun o => o.failure?.any Failure.isPayloadFailure) = some true := by decide +kernel
  have hsent : (({} : World).after (asking ++ .run 0 :: garbled)).sentBy 0 = 2 := by decide +kernel
  obtain ⟨o, ho, hpayload⟩ := Option.map_eq_some_iff.1 hends
  obtain ⟨result, rfl, -, hcharged⟩ :=
    (@calls_accounted {} rfl).1 asking garbled 0 _ _ [] _ o rfl rfl (.self _) ho
  rw [after_append] at hsent
  have hself : clerk.endpoint = (Interface.publicApi 0 clerk).endpoint := rfl
  cases result with
  | ok devices => cases hpayload
  | error f =>
    cases f with
    | payload api cause =>
      refine ⟨?_, ?_, ?_, ?_⟩
      · rw [hcharged.requests, if_pos hself, issuedBy, hsent]
        rfl
      · rw [hcharged.payloadErrors, if_pos hself]
        rfl
      · rw [hcharged.requestErrors, if_pos hself]
        rfl
      · rw [hcharged.latencies, if_pos hself]
    | _ => cases hpayload

end World

end TailnetTargets
