/-
  What calls of interfaces add to the counters.

  * `Interface.closing`: what is noted when a call ends, and `Interface.charge`: what that adds to
    the counters;
  * `Event.isOfCall`: the events which tell of calls of interfaces, and `World.Notes`: those which
    are noted between two worlds;
  * `World.Proceeds`: the call of an interface waits for something, or it ends, with the events
    which it notes and the requests which it sends (`endCall_proceeds`, `ask_proceeds`,
    `takeTurn_proceeds`, `beginCall_proceeds`, `handle_proceeds`);
  * `run_begins`, `run_proceeds`, `reply_proceeds`: whatever happens to a task which comes to an
    interface, or calls one, its call proceeds so.
-/
import TailnetTargets.Proofs.Discovery.Inert
import TailnetTargets.Proofs.Discovery.Ledger
import TailnetTargets.Proofs.Metrics.Totals

namespace TailnetTargets

/-! ## Results of calls -/

/-- Whether an event tells of the call of an interface. -/
def Event.isOfCall (e : Event) : Bool := e.isTraffic || e.span?.isSome

/-- What is noted when the call of an interface ends. -/
def Interface.closing (asked : Interface) (elapsed : Duration) :
    Except Failure (List Device) → List Event
  | .ok devices => .latency asked.endpoint elapsed :: asked.discoveries devices
  | .error failure => failure.accounting asked.endpoint ++ [.latency asked.endpoint elapsed]

theorem World.callEvents_eq (w : World) (call : Call) (result : Except Failure (List Device)) :
    w.callEvents call result = call.asked.closing (w.tokenClock.since call.began) result := by
  cases result <;> rfl

/-- Whether a request could not be put together, which was to be sent. -/
def refusals : Except Failure (List Device) → Nat
  | .error (.request _ (.unusable _)) => 1
  | _ => 0

/-- How many errors of requests are counted when a call ends. -/
def requestErrors : Except Failure (List Device) → Nat
  | .ok _ => 0
  | .error failure => if failure.isRequestFailure then 1 else 0

/-- How many errors of payloads are counted when a call ends. -/
def payloadErrors : Except Failure (List Device) → Nat
  | .ok _ => 0
  | .error failure => if failure.isPayloadFailure then 1 else 0

/-- How many devices are counted for a tailnet when a call ends. -/
def Interface.discovered (tailnet : String) : Interface → Except Failure (List Device) → Nat
  | publicApi _ api, .ok devices => if tailnet = api.tailnet then devices.length else 0
  | _, _ => 0

/-- What a call which ends adds to the counters. -/
def Interface.charge (asked : Interface) (result : Except Failure (List Device)) : Counter → Nat
  | .requestErrors endpoint => if endpoint = asked.endpoint then requestErrors result else 0
  | .payloadErrors endpoint => if endpoint = asked.endpoint then payloadErrors result else 0
  | .devicesFound tailnet => asked.discovered tailnet result
  | _ => 0

theorem errors_le_one (result : Except Failure (List Device)) :
    requestErrors result + payloadErrors result ≤ 1 := by
  cases result with
  | ok devices => exact Nat.zero_le _
  | error failure =>
    cases failure <;>
      simp [requestErrors, payloadErrors, Failure.isRequestFailure, Failure.isPayloadFailure]

section
variable (asked : Interface) (elapsed : Duration) (result : Except Failure (List Device))

theorem added_closing (c : Counter) :
    added c (asked.closing elapsed result) = asked.charge result c := by
  cases result with
  | ok devices =>
    cases asked <;> cases c <;>
      simp [Interface.closing, Interface.discoveries, added_cons, Event.increment?,
        requestErrors, payloadErrors, Interface.discovered, Interface.charge]
  | error failure =>
    cases failure <;> cases c <;>
      simp [Interface.closing, Failure.accounting, added_cons, Event.increment?,
        requestErrors, payloadErrors, Interface.discovered, Interface.charge,
        Failure.isRequestFailure, Failure.isPayloadFailure]

theorem spans_closing (endpoint : Endpoint) :
    spans endpoint (asked.closing elapsed result) =
      if endpoint = asked.endpoint then [elapsed] else [] := by
  cases result with
  | ok devices =>
    cases asked <;>
      simp [Interface.closing, Interface.discoveries, spans_cons, Event.span?]
  | error failure =>
    cases failure <;>
      simp [Interface.closing, Failure.accounting, spans_cons, Event.span?]

end

theorem added_requests (n : Nat) (endpoint : Endpoint) (c : Counter) :
    added c (List.replicate n (.request endpoint)) = if c = .requests endpoint then n else 0 := by
  induction n with
  | zero => simp
  | succ n ih =>
    rw [List.replicate_succ, added_cons, ih]
    split <;> simp_all [Event.increment?, Nat.add_comm]

theorem spans_requests (n : Nat) (endpoint endpoint' : Endpoint) :
    spans endpoint' (List.replicate n (.request endpoint)) = [] := by
  induction n with
  | zero => rfl
  | succ n ih => rw [List.replicate_succ, spans_cons, ih]; rfl

theorem PublicApi.address_error {url : String} {authorization : Option String}
    {fault : RequestFault} (h : PublicApi.address url authorization = .error fault) :
    ∃ u, fault = .unusable u := by
  unfold PublicApi.address at h
  split at h
  · cases h
    exact ⟨_, rfl⟩
  · split at h
    · cases h
      exact ⟨_, rfl⟩
    · split at h
      · cases h
        exact ⟨_, rfl⟩
      · split at h <;> cases h
        exact ⟨_, rfl⟩

theorem PublicApi.devicesRequest_error {api : PublicApi} {authorization : String}
    {fault : RequestFault} (h : api.devicesRequest authorization = .error fault) :
    ∃ u, fault = .unusable u := by
  unfold PublicApi.devicesRequest at h
  cases haddress : PublicApi.address api.devicesUrl (some authorization) with
  | ok u =>
    rw [haddress] at h
    cases h
  | error f =>
    rw [haddress] at h
    cases h
    exact PublicApi.address_error haddress

theorem PublicApi.tokenRequest_error {api : PublicApi} {id secret : String}
    {fault : RequestFault} (h : api.tokenRequest id secret = .error fault) :
    ∃ u, fault = .unusable u := by
  unfold PublicApi.tokenRequest at h
  cases haddress : PublicApi.address api.tokenUrl none with
  | ok u =>
    rw [haddress] at h
    cases h
  | error f =>
    rw [haddress] at h
    cases h
    exact PublicApi.address_error haddress

/-- Faults of replies are not those of requests which could not be put together. -/
structure TransportFaults.OfReplies (faults : TransportFaults) : Prop where
  refused : ∀ u, faults.refused ≠ .unusable u
  dropped : ∀ u, faults.dropped ≠ .unusable u
  cut : ∀ u, faults.cut ≠ .unusable u

theorem refusals_of_ne {failure : Failure} (h : ∀ api u, failure ≠ .request api (.unusable u)) :
    refusals (.error failure) = 0 := by
  unfold refusals
  split
  · next api u heq => exact absurd (Except.error.inj heq) (h api u)
  · rfl

theorem Reply.decode_ne_unusable {α : Type} {api : String} {faults : TransportFaults}
    (hfaults : faults.OfReplies) {decoder : Decoder α} {r : Reply} {f : Failure}
    (h : r.decode api faults decoder = .error f) : ∀ api u, f ≠ .request api (.unusable u) := by
  unfold Reply.decode at h
  cases hb : r.body api faults with
  | ok bytes =>
    simp only [hb, bind, Except.bind] at h
    split at h <;> cases h
    simp
  | error g =>
    simp only [hb, bind, Except.bind] at h
    cases h
    unfold Reply.body at hb
    split at hb
    · cases hb
      simpa using fun _ u _ => hfaults.refused u
    · cases hb
      simpa using fun _ u _ => hfaults.dropped u
    · split at hb
      · cases hb
        simp
      · split at hb <;> cases hb
        simpa using fun _ u _ => hfaults.cut u

theorem PublicApi.faults_ofReplies (url : String) : (PublicApi.faults url).OfReplies :=
  ⟨by simp [PublicApi.faults], by simp [PublicApi.faults], by simp [PublicApi.faults]⟩

theorem LocalApi.faults_ofReplies : LocalApi.faults.OfReplies :=
  ⟨by simp [LocalApi.faults], by simp [LocalApi.faults], by simp [LocalApi.faults]⟩

theorem Interface.refusals_devices (asked : Interface) (r : Reply) :
    refusals (asked.devices r) = 0 := by
  cases h : asked.devices r with
  | ok devices => rfl
  | error f =>
    refine refusals_of_ne ?_
    cases asked with
    | localApi socket =>
      exact Reply.decode_ne_unusable LocalApi.faults_ofReplies (Except.map_eq_error h)
    | publicApi id api =>
      exact Reply.decode_ne_unusable (PublicApi.faults_ofReplies _) (Except.map_eq_error h)

theorem PublicApi.refusals_grant {api : PublicApi} {r : Reply} {f : Failure}
    (h : api.grant r = .error f) : refusals (.error f) = 0 :=
  refusals_of_ne (Reply.decode_ne_unusable (PublicApi.faults_ofReplies _) h)

theorem Interface.refusals_tooSlow (asked : Interface) (errand : Errand) :
    refusals (.error (asked.tooSlow errand)) = 0 := by
  cases asked <;> cases errand <;> rfl

/-! ## Stages of calls -/

/-- How many requests a call has counted at most when it waits for the reply to the last one. -/
def Errand.asked : Errand → Nat
  | grant => 1
  | devices => 2

theorem Errand.asked_le (errand : Errand) : errand.asked ≤ 2 := by cases errand <;> decide

namespace Stage

/-- How many requests a call has counted at most. -/
def asked : Stage → Nat
  | turn => 0
  | reply errand _ => errand.asked

theorem asked_le (stage : Stage) : stage.asked ≤ 2 := by
  cases stage with
  | turn => exact Nat.zero_le _
  | reply errand alarm => exact errand.asked_le

/-- Whether a call waits for the reply to a request. -/
def awaits : Stage → Nat
  | turn => 0
  | reply _ _ => 1

end Stage

/-- The events of a call as far as it is counted. -/
def Call.noted (call : Call) (events : List Event) : List Event :=
  if call.metered then events else []

theorem Call.noted_nil (call : Call) : call.noted [] = [] := ite_self _

theorem Call.noted_append (call : Call) (events events' : List Event) :
    call.noted events ++ call.noted events' = call.noted (events ++ events') := by
  unfold noted
  split <;> rfl

namespace World

/-! ## What is noted -/

/-- The events of calls which are noted between two worlds. -/
def Notes (w w' : World) (noted : List Event) : Prop :=
  ∃ events : List Event, w'.registry = events.foldl Registry.record w.registry ∧
    events.filter Event.isOfCall = noted

/-- How many requests a task has sent. -/
def sentBy (w : World) (i : Nat) : Nat := w.sent.countP (·.task = i)

section
variable {w v u : World} {noted noted' : List Event}

theorem Notes.of_registry (h : v.registry = w.registry) : w.Notes v [] := ⟨[], h, rfl⟩

theorem Notes.trans (h : w.Notes v noted) (h' : v.Notes u noted') :
    w.Notes u (noted ++ noted') := by
  obtain ⟨events, hv, rfl⟩ := h
  obtain ⟨events', hu, rfl⟩ := h'
  exact ⟨events ++ events', by rw [hu, hv, List.foldl_append], List.filter_append ..⟩

theorem Notes.then (h : w.Notes v noted) (h' : v.Notes u []) : w.Notes u noted := by
  have hall := h.trans h'
  rwa [List.append_nil] at hall

theorem Notes.after (h : w.Notes v []) (h' : v.Notes u noted) : w.Notes u noted := h.trans h'

theorem count_notes (w : World) (metered : Bool) (events : List Event) :
    w.Notes (w.count metered events)
      (if metered then events.filter Event.isOfCall else []) := by
  cases metered with
  | true => exact ⟨events, rfl, rfl⟩
  | false => exact .of_registry rfl

theorem count_notes_nil (w : World) (metered : Bool) {events : List Event}
    (h : events.filter Event.isOfCall = []) : w.Notes (w.count metered events) [] := by
  have hcount := w.count_notes metered events
  rw [h, ite_self] at hcount
  exact hcount

theorem settle_notes (w : World) (rs : List Refresh) (o : Outcome) :
    w.Notes (w.settle rs o).1 [] := by
  induction rs generalizing w o with
  | nil => exact .of_registry rfl
  | cons r rs ih =>
    refine Notes.after ?_ (ih _ _)
    cases o with
    | found devices => exact .of_registry rfl
    | failed failure => exact count_notes_nil w _ (by decide)
    | panicked text => exact .of_registry rfl

theorem finish_notes (w : World) (i : Nat) (o : Outcome) : w.Notes (w.finish i o) [] :=
  (w.settle_notes (w.refreshesOf i) o).then (.of_registry rfl)

theorem count_sent (w : World) (metered : Bool) (events : List Event) :
    (w.count metered events).sent = w.sent := (w.count_quiet metered events).sent

theorem leaveDesk_sent (w : World) (i : Nat) (asked : Interface) :
    (w.leaveDesk i asked).sent = w.sent := (w.leaveDesk_quiet i asked).sent

end

/-! ## Calls of interfaces -/

/-- The call of an interface waits for something, or it ends; `requests` are the requests which it
    counts. -/
inductive Proceeds (call : Call) (w : World) (i : Nat) (w' : World) : Prop where
  | waits {stage : Stage} {requests : Nat}
      (htasks : w'.tasks = (w.setPhase i (.calling { call with stage })).tasks)
      (hasked : call.stage.asked + requests ≤ stage.asked)
      (hawaits : stage.awaits ≤ call.stage.awaits + requests)
      (hnotes : w.Notes w'
        (call.noted (List.replicate requests (.request call.asked.endpoint))))
      (hsent : w'.sentBy i = w.sentBy i + requests)
  | ends {result : Except Failure (List Device)} {requests : Nat} {elapsed : Duration}
      (htasks : w'.tasks =
        (w.setPhase i (.finished ((Outcome.ofExcept result).coveredBy (w.refreshesOf i)))).tasks)
      (hasked : call.stage.asked + requests ≤ 2)
      (hawaits : requestErrors result + payloadErrors result ≤ call.stage.awaits + requests)
      (hplain : (Outcome.ofExcept result).IsPlain)
      (hnotes : w.Notes w' (call.noted
        (List.replicate requests (.request call.asked.endpoint) ++
          call.asked.closing elapsed result)))
      (hsent : w'.sentBy i + refusals result = w.sentBy i + requests)

section
variable {w v w' : World} {i : Nat} {call : Call}

theorem Proceeds.congr (htasks : v.tasks = w.tasks) (hregistry : v.registry = w.registry)
    (hsent : v.sent = w.sent) (h : Proceeds call v i w') : Proceeds call w i w' := by
  have hnotes : ∀ {noted}, v.Notes w' noted → w.Notes w' noted := fun h => by
    obtain ⟨events, heq, hfilter⟩ := h
    exact ⟨events, by rw [heq, hregistry], hfilter⟩
  have hcount : v.sentBy i = w.sentBy i := by rw [sentBy, hsent]; rfl
  have hrefreshes : v.refreshesOf i = w.refreshesOf i := by rw [refreshesOf, htasks]; rfl
  cases h with
  | waits ht hasked hawaits hn hs =>
    exact .waits (by rw [ht, setPhase, htasks]; rfl) hasked hawaits (hnotes hn)
      (by rw [hs, hcount])
  | ends ht hasked hawaits hplain hn hs =>
    exact .ends (by rw [ht, hrefreshes, setPhase, htasks]; rfl) hasked hawaits hplain
      (hnotes hn) (by rw [hs, hcount])

theorem Proceeds.of_setPhase {phase : Phase} (h : Proceeds call (w.setPhase i phase) i w') :
    Proceeds call w i w' := by
  have hrefreshes := w.refreshesOf_setPhase i phase
  cases h with
  | waits ht hasked hawaits hn hs =>
    exact .waits (by rw [ht, setPhase_setPhase]) hasked hawaits hn hs
  | ends ht hasked hawaits hplain hn hs =>
    exact .ends (by rw [ht, setPhase_setPhase, hrefreshes]) hasked hawaits hplain hn hs

theorem closing_isOfCall (asked : Interface) (elapsed : Duration)
    (result : Except Failure (List Device)) :
    (asked.closing elapsed result).filter Event.isOfCall = asked.closing elapsed result := by
  refine List.filter_eq_self.2 fun e he => ?_
  cases result with
  | ok devices =>
    cases asked with
    | localApi socket =>
      obtain rfl := List.mem_singleton.1 he
      rfl
    | publicApi id api =>
      simp only [Interface.closing, Interface.discoveries, List.mem_cons, List.not_mem_nil,
        or_false] at he
      obtain rfl | rfl := he <;> rfl
  | error failure =>
    simp only [Interface.closing, List.mem_append, List.mem_singleton] at he
    obtain he | rfl := he
    · cases failure <;> simp_all [Failure.accounting] <;> rfl
    · rfl

/-- What is noted when a call ends. -/
theorem endCall_notes (w : World) (i : Nat) (call : Call)
    (result : Except Failure (List Device)) : w.Notes (w.endCall i call result)
      (call.noted (call.asked.closing (w.tokenClock.since call.began) result)) := by
  let v := w.leaveDesk i call.asked
  let v' := (v.count call.metered (w.callEvents call result)).tell (call.asked.lineOf result)
  have hcount : v.Notes v'
      (call.noted (call.asked.closing (w.tokenClock.since call.began) result)) := by
    have hnotes := v.count_notes call.metered (w.callEvents call result)
    rw [callEvents_eq, closing_isOfCall] at hnotes
    exact hnotes.then (.of_registry rfl)
  have hend : w.endCall i call result = v'.finish i (.ofExcept result) := rfl
  rw [hend]
  exact Notes.after (.of_registry (w.leaveDesk_registry i call.asked))
    (hcount.then (finish_notes v' i _))

theorem endCall_sent (w : World) (i : Nat) (call : Call) (result : Except Failure (List Device)) :
    (w.endCall i call result).sent = w.sent := (w.endCall_quiet i call result).sent

theorem endCall_tasks (w : World) (i : Nat) (call : Call)
    (result : Except Failure (List Device)) : (w.endCall i call result).tasks =
      (w.setPhase i (.finished ((Outcome.ofExcept result).coveredBy (w.refreshesOf i)))).tasks :=
  (endCall_agrees w i call result).tasks

theorem endCall_proceeds {result : Except Failure (List Device)}
    (hplain : (Outcome.ofExcept result).IsPlain)
    (hawaits : requestErrors result + payloadErrors result ≤ call.stage.awaits)
    (hrefusals : refusals result = 0) : Proceeds call w i (w.endCall i call result) := by
  have hsent : (w.endCall i call result).sentBy i + refusals result = w.sentBy i + 0 := by
    rw [sentBy, endCall_sent, hrefusals]
    rfl
  have hnotes : w.Notes (w.endCall i call result) (call.noted
      (List.replicate 0 (.request call.asked.endpoint) ++
        call.asked.closing (w.tokenClock.since call.began) result)) := w.endCall_notes i call result
  exact .ends (w.endCall_tasks i call result) call.stage.asked_le hawaits hplain hnotes hsent

theorem canceled_proceeds : Proceeds call w i (w.endCall i call (.error .canceled)) :=
  endCall_proceeds trivial (Nat.zero_le _) rfl

/-- Who asks for something counts a request, whether or not it can be put together. -/
theorem ask_proceeds (errand : Errand) {request : Except RequestFault Request}
    (hasked : call.stage.asked + 1 ≤ errand.asked)
    (hrequest : ∀ fault, request = .error fault → ∃ u, fault = .unusable u) :
    Proceeds call w i (w.ask i call errand request) := by
  let v := w.count call.metered [.request call.asked.endpoint]
  have hagrees : v.Agrees w := count_agrees _ _ _
  have hcount : w.Notes v (call.noted [.request call.asked.endpoint]) :=
    w.count_notes call.metered _
  have hsent : v.sent = w.sent := w.count_sent _ _
  cases request with
  | error fault =>
    obtain ⟨u, rfl⟩ := hrequest fault rfl
    let result : Except Failure (List Device) :=
      .error (.request call.asked.endpoint.host (.unusable u))
    have hnotes := hcount.trans (v.endCall_notes i call result)
    rw [Call.noted_append] at hnotes
    have htwo : call.stage.asked + 1 ≤ 2 := Nat.le_trans hasked errand.asked_le
    have hone : requestErrors result + payloadErrors result ≤ call.stage.awaits + 1 :=
      Nat.le_trans (errors_le_one result) (Nat.le_add_left ..)
    refine .ends ?_ htwo hone trivial hnotes ?_
    · change (v.endCall i call result).tasks = _
      rw [endCall_tasks, refreshesOf, setPhase, hagrees.tasks]
      rfl
    · change (v.endCall i call result).sentBy i + 1 = _
      rw [sentBy, endCall_sent, hsent]
      rfl
  | ok request =>
    let asking : Call := { call with stage := .reply errand (v.clock.alarm requestTimeout) }
    let u := v.send i call.asked request
    have hstage : call.stage.asked + 1 ≤ asking.stage.asked := hasked
    have hone : asking.stage.awaits ≤ call.stage.awaits + 1 := Nat.le_add_left ..
    refine .waits ?_ hstage hone (hcount.then (.of_registry rfl)) ?_
    · exact congrArg (List.modify · i _) hagrees.tasks
    · change (v.sent ++ [_]).countP _ = _
      rw [List.countP_append, hsent]
      simp [sentBy]

theorem askWith_proceeds (api : PublicApi) (token : String) (hasked : call.stage.asked ≤ 1) :
    Proceeds call w i (w.askWith i call api token) := by
  refine .congr (w.leaveDesk_agrees i call.asked).tasks (w.leaveDesk_registry i call.asked)
    (w.leaveDesk_sent i call.asked) ?_
  exact ask_proceeds .devices (Nat.succ_le_succ hasked) fun _ => PublicApi.devicesRequest_error

theorem takeTurn_proceeds (hstage : call.stage = .turn) :
    w.takeTurn i call = w ∨ Proceeds call w i (w.takeTurn i call) := by
  have hasked : call.stage.asked = 0 := by rw [hstage]; rfl
  unfold takeTurn
  split
  · exact Or.inl rfl
  · split
    · split
      · exact Or.inr (askWith_proceeds _ _ (by omega))
      · refine Or.inr (ask_proceeds .grant ?_ fun _ => PublicApi.tokenRequest_error)
        rw [hasked]
        exact Nat.le_refl _
      · exact Or.inl rfl
    · exact Or.inl rfl

/-- Who waits in line counts nothing. -/
theorem setPhase_proceeds : Proceeds call w i (w.setPhase i (.calling call)) := by
  have hnotes : w.Notes (w.setPhase i (.calling call))
      (call.noted (List.replicate 0 (.request call.asked.endpoint))) := by
    rw [List.replicate_zero, Call.noted_nil]
    exact .of_registry rfl
  exact .waits rfl (Nat.le_refl _) (Nat.le_refl _) hnotes rfl

theorem beginCall_proceeds (hstage : call.stage = .turn) :
    Proceeds call w i (w.beginCall i call) := by
  have hasked : call.stage.asked + 1 ≤ Errand.devices.asked := by rw [hstage]; decide
  unfold beginCall
  split
  · exact ask_proceeds .devices hasked fun _ h => nomatch h
  · next id api _ =>
    split
    · exact ask_proceeds .devices hasked fun _ => PublicApi.devicesRequest_error
    · let v := w.setDesk id ((w.desks id).join i)
      refine .congr (v := v) rfl rfl rfl ?_
      rcases takeTurn_proceeds (w := v.setPhase i (.calling call)) (i := i) hstage with h | h
      · rw [h]
        exact setPhase_proceeds
      · exact h.of_setPhase

theorem handle_proceeds {errand : Errand} {alarm : Instant}
    (hstage : call.stage = .reply errand alarm) (r : Reply) :
    w.handle i call r errand = w ∨ Proceeds call w i (w.handle i call r errand) := by
  have hawaits (result : Except Failure (List Device)) :
      requestErrors result + payloadErrors result ≤ call.stage.awaits := by
    rw [hstage]
    exact errors_le_one result
  cases errand with
  | devices =>
    exact Or.inr (endCall_proceeds (call.asked.devices_isPlain r) (hawaits _)
      (call.asked.refusals_devices r))
  | grant =>
    simp only [handle]
    split
    · exact Or.inl rfl
    · next id api _ =>
      split
      · next f hf =>
        have hplain : (Outcome.ofExcept (.error f)).IsPlain := Reply.decode_isPlain hf
        exact Or.inr (endCall_proceeds hplain (hawaits _) (PublicApi.refusals_grant hf))
      · next grant _ =>
        let v := (w.setDesk id ((w.desks id).keep w.tokenClock grant)).tell
          (TokenDesk.lineOf w.tokenClock grant)
        have hasked : call.stage.asked ≤ 1 := by rw [hstage]; exact Nat.le_refl _
        exact Or.inr (.congr (v := v) rfl rfl rfl (askWith_proceeds api grant.token hasked))

theorem interface_proceeds (w : World) (i : Nat) (scope : Scope) (asked : Interface)
    (metered : Bool) : Proceeds ⟨asked, metered, w.tokenClock, .turn⟩ w i
      (w.enter i scope (.interface asked metered)) := by
  rw [enter]
  split
  · exact canceled_proceeds
  · exact beginCall_proceeds rfl

theorem run_proceeds {t : Task} (ht : w.tasks[i]? = some t) (hp : t.phase = .calling call) :
    w.run i = w ∨ Proceeds call w i (w.run i) := by
  simp only [run, ht, hp]
  split
  · exact Or.inr canceled_proceeds
  · split
    · next hstage => exact takeTurn_proceeds hstage
    · next errand alarm hstage =>
      split
      · refine Or.inr (endCall_proceeds (call.asked.tooSlow_isPlain errand) ?_
          (call.asked.refusals_tooSlow errand))
        rw [hstage]
        exact errors_le_one _
      · exact Or.inl rfl

theorem reply_proceeds {t : Task} (ht : w.tasks[i]? = some t) (hp : t.phase = .calling call)
    (r : Reply) : w.reply i r = w ∨ Proceeds call w i (w.reply i r) := by
  obtain ⟨scope, parent, rs, phase⟩ := t
  cases hp
  simp only [reply, ht]
  split
  · exact Or.inl rfl
  · next errand alarm hstage =>
    split
    · exact Or.inr canceled_proceeds
    · exact handle_proceeds hstage r

/-- Who goes through caches notes nothing of calls of interfaces. -/
theorem passAll_notes (w : World) (i : Nat) (rs : List Refresh) : w.Notes (w.passAll i rs) [] := by
  induction rs with
  | nil => exact .of_registry rfl
  | cons r rs ih =>
    let events : List Event := [.cacheRequest, .cacheRefresh]
    have hnone : events.filter Event.isOfCall = [] := rfl
    exact ih.after ((count_notes_nil _ r.metered hnone).then (.of_registry rfl))

theorem passAll_sent (w : World) (i : Nat) (rs : List Refresh) :
    (w.passAll i rs).sent = w.sent := by
  induction rs with
  | nil => rfl
  | cons r rs ih => exact ((w.passAll i rs).count_sent r.metered _).trans ih

/-- Who comes to an interface through caches begins its call. -/
theorem run_begins {t : Task} {s : Source} {rs : List Refresh} {asked : Interface} {metered : Bool}
    (ht : w.tasks[i]? = some t) (hs : t.phase = .ready s)
    (hc : w.Calls s rs (.interface asked metered)) :
    Proceeds ⟨asked, metered, (w.passAll i rs).tokenClock, .turn⟩ (w.passAll i rs) i
      (w.run i) := by
  have hrun : w.run i = (w.passAll i rs).enter i t.scope (.interface asked metered) := by
    rw [← enter_passAll hc i t.scope w (.refl w)]
    simp only [run, ht, hs]
  rw [hrun]
  exact interface_proceeds _ i t.scope asked metered

end

end World

end TailnetTargets
