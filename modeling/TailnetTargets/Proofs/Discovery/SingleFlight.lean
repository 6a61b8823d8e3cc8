/-
  Exchanges of tokens are shared.

  * `World.turnRequest?`: what a task sends when its turn at a desk comes (`run_of_turn`), and
    `after_line`: while there is a token, all in line are served;
  * `World.Departs`: a task goes from a desk, and the others are left as they are (`run_departs`,
    `reply_departs`, `drop_departs`);
  * `single_flight`: at most one exchange is in progress at a desk, none is started while the token
    of the last one may be used, and nobody who goes holds the others up;
  * `crowd`: four calls which share one exchange.
-/
import Mathlib.Data.List.Basic
import TailnetTargets.Proofs.Discovery.Kin
import TailnetTargets.Proofs.Discovery.Starts

namespace TailnetTargets

attribute [ext] TokenDesk

namespace World

/-- What a task which waits at a desk sends when its turn comes, unless it is canceled or the request
    cannot be put together. -/
def turnRequest? (w : World) (id i : Nat) : Option Sent :=
  match w.tasks[i]? with
  | some { scope, phase := .calling { asked := .publicApi n api, .. }, .. } =>
    if w.isCanceled scope then none
    else
      let request? := match w.token? id, api.credentials with
        | some token, _ => (api.devicesRequest (PublicApi.bearerAuthorization token)).toOption
        | none, .client client secret => (api.tokenRequest client secret).toOption
        | none, .token _ => none
      request?.map fun request => ⟨i, .publicApi n api, request⟩
  | _ => none

/-- A task goes from a desk, and nothing changes for those who stay. -/
structure Departs (w w' : World) (id i : Nat) : Prop where
  line : (w'.desks id).line = (w.desks id).line.erase i
  kept : (w'.desks id).kept = (w.desks id).kept
  tokenClock : w'.tokenClock = w.tokenClock
  sent : w'.sent = w.sent
  desks : ∀ n, n ≠ id → w'.desks n = w.desks n
  tasks : ∀ j, j ≠ i → w'.tasks[j]? = w.tasks[j]?
  turns : ∀ j, j ≠ i → w'.turnRequest? id j = w.turnRequest? id j

section
variable {w : World} {id i : Nat}

/-! ## Turns -/

theorem ask_sent (w : World) (i : Nat) (call : Call) (errand : Errand)
    (request : Except RequestFault Request) : (w.ask i call errand request).sent =
      w.sent ++ (request.toOption.map fun r => ⟨i, call.asked, r⟩).toList := by
  have hcount := (w.count_quiet call.metered [.request call.asked.endpoint]).sent
  cases request with
  | error fault =>
    rw [ask, (endCall_quiet _ i call _).sent, hcount]
    exact (List.append_nil _).symm
  | ok r => exact congrArg (· ++ [_]) hcount

/-- Who goes from a desk is not in its line any more. -/
theorem line_of_leave {w' : World} {new : List Sent} (h : w'.queue = w.queue.leave (some id) i new) :
    (w'.desks id).line = (w.desks id).line.erase i :=
  (congrFun (congrArg Queue.line h) id).trans (if_pos rfl)

theorem erase_eq_tail {line : List Nat} (h : line.head? = some i) : line.erase i = line.tail := by
  cases line with
  | nil => rfl
  | cons j line =>
    cases h
    exact List.erase_cons_head ..

/-- The same is sent by whoever finds the same token, and is canceled in both worlds or in none. -/
theorem turnRequest?_congr {w' : World} (htoken : w'.token? id = w.token? id)
    (ht : w'.tasks[i]? = w.tasks[i]?)
    (hscope : ∀ t, w.tasks[i]? = some t → w'.isCanceled t.scope = w.isCanceled t.scope) :
    w'.turnRequest? id i = w.turnRequest? id i := by
  unfold turnRequest?
  rw [ht, htoken]
  split
  · next h => rw [hscope _ h]
  · rfl

section
variable {t : Task} {call : Call} {api : PublicApi} {client secret : String}

theorem turnRequest?_of_canceled (ht : w.tasks[i]? = some t) (hcanceled : w.isCanceled t.scope) :
    w.turnRequest? id i = none := by
  unfold turnRequest?
  split
  · next h =>
    obtain rfl := Option.some.inj (ht.symm.trans h)
    rw [if_pos hcanceled]
  · rfl

theorem turnRequest?_of_token {token : String} (ht : w.tasks[i]? = some t)
    (hp : t.phase = .calling call) (hasked : call.asked = .publicApi id api)
    (hscope : ¬ w.isCanceled t.scope) (htoken : w.token? id = some token) :
    w.turnRequest? id i = (api.devicesRequest (PublicApi.bearerAuthorization token)).toOption.map
      fun request => ⟨i, call.asked, request⟩ := by
  obtain ⟨scope, parent, rs, phase⟩ := t
  obtain ⟨asked, metered, began, stage⟩ := call
  cases hp
  cases hasked
  simp only [turnRequest?, ht, htoken, if_neg hscope]

theorem turnRequest?_of_no_token (ht : w.tasks[i]? = some t) (hp : t.phase = .calling call)
    (hasked : call.asked = .publicApi id api) (hclient : api.credentials = .client client secret)
    (hscope : ¬ w.isCanceled t.scope) (htoken : w.token? id = none) :
    w.turnRequest? id i = (api.tokenRequest client secret).toOption.map
      fun request => ⟨i, call.asked, request⟩ := by
  obtain ⟨scope, parent, rs, phase⟩ := t
  obtain ⟨asked, metered, began, stage⟩ := call
  cases hp
  cases hasked
  simp only [turnRequest?, ht, htoken, hclient, if_neg hscope]

/-- Who is canceled ends its call. -/
theorem run_of_canceled_call (ht : w.tasks[i]? = some t) (hp : t.phase = .calling call)
    (hcanceled : w.isCanceled t.scope) : w.run i = w.endCall i call (.error .canceled) := by
  simp only [run, ht, hp, hcanceled, if_true]

theorem run_of_stage_turn (ht : w.tasks[i]? = some t) (hp : t.phase = .calling call)
    (hscope : ¬ w.isCanceled t.scope) (hstage : call.stage = .turn) :
    w.run i = w.takeTurn i call := by
  simp only [run, ht, hp, hstage, if_neg hscope]

theorem takeTurn_of_token {token : String} (hhead : (w.desks id).line.head? = some i)
    (hasked : call.asked = .publicApi id api) (htoken : w.token? id = some token) :
    w.takeTurn i call = w.askWith i call api token := by
  have hturn : (w.desks id).isTurnOf i := decide_eq_true hhead
  have husable : (w.desks id).usable? w.tokenClock = some token := htoken
  simp only [takeTurn, hasked, hturn, husable, if_true]

theorem takeTurn_of_no_token (hhead : (w.desks id).line.head? = some i)
    (hasked : call.asked = .publicApi id api) (hclient : api.credentials = .client client secret)
    (htoken : w.token? id = none) :
    w.takeTurn i call = w.ask i call .grant (api.tokenRequest client secret) := by
  have hturn : (w.desks id).isTurnOf i := decide_eq_true hhead
  have husable : (w.desks id).usable? w.tokenClock = none := htoken
  simp only [takeTurn, hasked, hclient, hturn, husable, if_true]

end

/-- The first in line takes its turn: with a token it asks for devices and goes, without one it asks
    for a token, or goes if it cannot. -/
theorem run_of_turn (hq : w.queue.IsOrderly) (hhead : (w.desks id).line.head? = some i)
    (hnot : ¬ w.IsExchanging id i) :
    (w.run i).sent = w.sent ++ (w.turnRequest? id i).toList ∧
      if w.token? id = none ∧ (w.turnRequest? id i).isSome then
        (w.run i).IsExchanging id i ∧ ((w.run i).desks id).line = (w.desks id).line
      else ((w.run i).desks id).line = (w.desks id).line.tail := by
  obtain ⟨t, call, api, ht, hp, hasked, ⟨hstage, client, secret, hclient⟩ | ⟨alarm, hstage⟩⟩ :=
    call_of_mem_line hq (List.mem_of_head? hhead)
  · have hdesk : call.asked.desk? = some id := by rw [hasked]; rfl
    rw [← erase_eq_tail hhead]
    by_cases hcanceled : w.isCanceled t.scope
    · have hleaves := hdesk ▸ endCall_queue w i call (.error .canceled)
      rw [run_of_canceled_call ht hp hcanceled, turnRequest?_of_canceled ht hcanceled,
        (endCall_quiet w i call _).sent, line_of_leave hleaves]
      simp
    · rw [run_of_stage_turn ht hp hcanceled hstage]
      cases htoken : w.token? id with
      | some token =>
        obtain ⟨new, -, hleaves⟩ := w.askWith_queue i hq call api token
        rw [takeTurn_of_token hhead hasked htoken, line_of_leave (hdesk ▸ hleaves), askWith,
          ask_sent, (leaveDesk_quiet w i _).sent,
          turnRequest?_of_token ht hp hasked hcanceled htoken]
        simp
      | none =>
        rw [takeTurn_of_no_token hhead hasked hclient htoken, ask_sent,
          turnRequest?_of_no_token ht hp hasked hclient hcanceled htoken]
        refine ⟨rfl, ?_⟩
        cases api.tokenRequest client secret with
        | error fault =>
          have hleaves := endCall_queue (w.count call.metered [.request call.asked.endpoint]) i call
            (.error (.request call.asked.endpoint.host fault))
          rw [count_queue, hdesk] at hleaves
          rw [ask, line_of_leave hleaves]
          simp [Except.toOption]
        | ok r =>
          have hasks := ask_grant_queue w i (List.getElem?_eq_some_iff.1 ht).1 hdesk r
          rw [if_pos ⟨rfl, rfl⟩, isExchanging_iff, congrFun (congrArg Queue.busy hasks) i]
          exact ⟨setAt_self .., congrFun (congrArg Queue.line hasks) id⟩
  · exact absurd ⟨t, api, ht, Task.exchanging?_eq_some_iff.2 ⟨call, alarm, hp, hasked, hstage⟩⟩ hnot

/-- A call which goes on cancels nobody else. -/
theorem isCanceled_run_of_calling (hw : w.IsKin) (hforest : w.IsForest) {t u : Task} {call : Call}
    {j : Nat} (ht : w.tasks[i]? = some t) (hp : t.phase = .calling call)
    (hu : w.tasks[j]? = some u) (hj : j ≠ i) :
    (w.run i).isCanceled u.scope = w.isCanceled u.scope := by
  refine isCanceled_of_closes (canceled_run w i) fun c hc => ?_
  rw [closesOf_eq ht] at hc
  exact hw.not_contains hforest ht hp hu hj (hw.path_of_mem_closes hforest ht hc).1

theorem token?_run (w : World) (i : Nat) : (w.run i).token? = w.token? := by
  have h := run_asks w i
  funext id
  simp only [token?, TokenDesk.usable?, h.kept id, h.tokenClock]

/-- While there is a token, all in line are served one after the other. -/
theorem after_line (hq : w.queue.IsOrderly) (hw : w.IsKin) (hforest : w.IsForest)
    (htoken : (w.token? id).isSome) (hnone : ∀ i, ¬ w.IsExchanging id i) :
    ((w.after ((w.desks id).line.map .run)).desks id).line = [] ∧
      (w.after ((w.desks id).line.map .run)).sent =
        w.sent ++ (w.desks id).line.filterMap (w.turnRequest? id) := by
  generalize hline : (w.desks id).line = line
  induction line generalizing w with
  | nil => exact ⟨hline, by simp [after]⟩
  | cons i line ih =>
    have hhead : (w.desks id).line.head? = some i := by rw [hline]; rfl
    obtain ⟨hsent, hif⟩ := run_of_turn hq hhead (hnone i)
    have hsome : w.token? id ≠ none := Option.isSome_iff_ne_none.1 htoken
    rw [if_neg fun h => hsome h.1, hline] at hif
    have hq' : (w.run i).queue.IsOrderly := isOrderly_after hq [.run i]
    have hnone' : ∀ j, ¬ (w.run i).IsExchanging id j := fun j hj =>
      hsome (token?_of_start (l := .run i) hq (hnone j) hj)
    have hsame : ∀ j ∈ line, (w.run i).turnRequest? id j = w.turnRequest? id j := fun j hj => by
      have hj' : j ∈ (w.desks id).line := by rw [hline]; exact List.mem_cons_of_mem _ hj
      obtain ⟨t, -, -, ht, -⟩ := call_of_mem_line hq hj'
      have hji : j ≠ i := by
        rintro rfl
        have hnodup := hq.nodup id
        rw [show w.queue.line id = j :: line from hline] at hnodup
        exact (List.nodup_cons.1 hnodup).1 hj
      refine turnRequest?_congr (congrFun (token?_run w i) id) ?_ fun v hv => ?_
      · exact tasks_step_of_ne w (l := .run i) (List.getElem?_eq_some_iff.1 ht).1
          (fun h => hji (Label.run.inj h).symm) (by simp) (by simp)
      · obtain ⟨u, call, -, hu, hp, -⟩ := call_of_mem_line hq (List.mem_of_head? hhead)
        exact isCanceled_run_of_calling hw hforest hu hp hv hji
    obtain ⟨hempty, hall⟩ := ih hq' (hw.step hforest (.run i)) (hforest.step (.run i))
      (by rw [token?_run]; exact htoken) hnone' hif
    refine ⟨hempty, ?_⟩
    change ((w.run i).after (line.map .run)).sent = _
    rw [hall, hsent, List.filterMap_congr hsame, List.append_assoc]
    cases hrequest : w.turnRequest? id i <;> simp [hrequest]

/-! ## Departures -/

/-- Who goes from a desk, and sends nothing, changes nothing for those who stay. -/
theorem Departs.of_queue {w' : World} (hquiet : w.Quiet w')
    (hqueue : w'.queue = w.queue.leave (some id) i [])
    (htasks : ∀ j, j ≠ i → w'.tasks[j]? = w.tasks[j]?)
    (hscopes : ∀ j t, j ≠ i → w.tasks[j]? = some t → w'.isCanceled t.scope = w.isCanceled t.scope) :
    w.Departs w' id i where
  line := line_of_leave hqueue
  kept := hquiet.kept id
  tokenClock := hquiet.tokenClock
  sent := hquiet.sent
  desks n hn := by
    refine TokenDesk.ext (hquiet.kept n) ?_
    have hline := congrFun (congrArg Queue.line hqueue) n
    exact hline.trans (if_neg fun h => hn (Option.some.inj h).symm)
  tasks := htasks
  turns j hj := turnRequest?_congr (congrFun hquiet.token? id) (htasks j hj) fun t => hscopes j t hj

section
variable {t : Task} {call : Call} {api : PublicApi}

theorem endCall_departs (hw : w.IsKin) (hforest : w.IsForest) (ht : w.tasks[i]? = some t)
    (hp : t.phase = .calling call) (hasked : call.asked = .publicApi id api)
    (result : Except Failure (List Device)) : w.Departs (w.endCall i call result) id i := by
  have hdesk : call.asked.desk? = some id := by rw [hasked]; rfl
  have hagrees := endCall_agrees w i call result
  refine .of_queue (endCall_quiet w i call result) (hdesk ▸ endCall_queue w i call result)
    (fun j hj => ?_) fun j u hj hu => ?_
  · rw [hagrees.tasks, ended, List.getElem?_modify_ne _ _ hj.symm]
  · rw [isCanceled, hagrees.canceled, ended, closesOf_eq ht]
    exact Scope.isCanceled_append_of_not_contains fun c hc =>
      hw.not_contains hforest ht hp hu hj (hw.path_of_mem_closes hforest ht hc).1

/-- A call from outside which is dropped goes from its desk. -/
theorem drop_departs (hw : w.IsKin) (hforest : w.IsForest) (ht : w.tasks[i]? = some t)
    (hroot : t.parent = none) (hp : t.phase = .calling call)
    (hasked : call.asked = .publicApi id api) : w.Departs (w.drop i) id i := by
  have hdesk : call.asked.desk? = some id := by rw [hasked]; rfl
  have hroot? : w.root? i = some t := root?_eq_some_iff.2 ⟨ht, hroot⟩
  let v := (w.leaveDesk i call.asked).setPhase i .dropped
  have hqueue : v.queue = w.queue.leave (some id) i [] := by
    rw [setPhase_leave _ i ⟨rfl, rfl⟩, leaveDesk_queue, hdesk]
    rfl
  have hquiet : w.Quiet v := by
    have h := w.leaveDesk_quiet i call.asked
    exact ⟨h.tokenClock, h.kept, h.sent⟩
  have htasks : ∀ j, j ≠ i → v.tasks[j]? = w.tasks[j]? := fun j hj => by
    rw [getElem?_setPhase, if_neg hj, (w.leaveDesk_agrees i call.asked).tasks]
  have hdrop : w.drop i = v.close i := by
    simp only [drop_of_root hroot?, release, hp]
    rfl
  have hcanceled : (v.close i).canceled = t.closes i ++ w.canceled := by
    rw [← hdrop, canceled_drop, cancels, hroot?]
  rw [hdrop]
  refine .of_queue ⟨hquiet.tokenClock, hquiet.kept, hquiet.sent⟩ hqueue htasks fun j u hj hu => ?_
  rw [isCanceled, hcanceled]
  exact Scope.isCanceled_append_of_not_contains fun c hc =>
    hw.not_contains hforest ht hp hu hj (hw.path_of_mem_closes hforest ht hc).1

/-- Who is canceled, or has waited too long, gives up when it goes on. -/
theorem run_departs (hw : w.IsKin) (hforest : w.IsForest) (ht : w.tasks[i]? = some t)
    (hp : t.phase = .calling call) (hasked : call.asked = .publicApi id api)
    (h : w.isCanceled t.scope ∨ ∃ alarm, t.alarm? = some alarm ∧ alarm ≤ w.clock) :
    w.Departs (w.run i) id i := by
  by_cases hcanceled : w.isCanceled t.scope
  · rw [run_of_canceled_call ht hp hcanceled]
    exact endCall_departs hw hforest ht hp hasked _
  · obtain ⟨alarm, halarm, hle⟩ := h.resolve_left hcanceled
    obtain ⟨asked, metered, began, stage⟩ := call
    cases stage with
    | turn => simp [Task.alarm?, hp] at halarm
    | reply errand alarm' =>
      obtain rfl : alarm' = alarm := by simpa [Task.alarm?, hp] using halarm
      have hrun : w.run i = w.endCall i ⟨asked, metered, began, .reply errand alarm'⟩
          (.error (asked.tooSlow errand)) := by
        simp only [run, ht, hp, if_neg hcanceled, if_pos hle]
      rw [hrun]
      exact endCall_departs hw hforest ht hp hasked _

theorem reply_departs (hw : w.IsKin) (hforest : w.IsForest) (ht : w.tasks[i]? = some t)
    (hexchanging : w.IsExchanging id i) (hcanceled : w.isCanceled t.scope) (r : Reply) :
    w.Departs (w.reply i r) id i := by
  obtain ⟨u, api, hu, hexchanging⟩ := hexchanging
  obtain rfl := Option.some.inj (ht.symm.trans hu)
  obtain ⟨call, alarm, hp, hasked, hstage⟩ := Task.exchanging?_eq_some_iff.1 hexchanging
  rw [reply_of_canceled_call ht hp hstage hcanceled]
  exact endCall_departs hw hforest ht hp hasked _

/-- A call from outside which is canceled is the only one that is. -/
theorem turnRequest?_cancelTask (hw : w.IsKin) (hforest : w.IsForest) (ht : w.tasks[i]? = some t)
    (hroot : t.parent = none) (hp : t.phase = .calling call) {j : Nat} (hj : j ≠ i) :
    (w.cancelTask i).turnRequest? id j = w.turnRequest? id j := by
  have hroot? : w.root? i = some t := root?_eq_some_iff.2 ⟨ht, hroot⟩
  have hcancel : w.cancelTask i = w.cancel t.scope := by simp only [cancelTask, hroot?]
  rw [hcancel]
  refine turnRequest?_congr rfl rfl fun u hu => ?_
  exact Scope.isCanceled_append_of_not_contains fun c hc =>
    hw.not_contains hforest ht hp hu hj (List.mem_singleton.1 hc ▸ (hw.call i t ht hroot).getLast?)

end

end

/-! ## Every run -/

/-- How a desk gives out tokens, in a world that comes after a run of another one. -/
structure SingleFlight (w₀ : World) (labels : List Label) (id : Nat) (w : World) : Prop where
  /-- At most one exchange is in progress. -/
  single : ∀ i j, w.IsExchanging id i → w.IsExchanging id j → i = j
  /-- An exchange starts when a token is asked for. -/
  starts : ∀ l i, ¬ w.IsExchanging id i ∧ (w.step l).IsExchanging id i ↔
    ∃ s ∈ w.sends l, s.task = i ∧ s.asked.desk? = some id ∧ s.request.method = .post
  /-- None starts while the token of the last exchange may be used. -/
  needed : ∀ l i e, ¬ w.IsExchanging id i → (w.step l).IsExchanging id i →
    (w₀.exchanges id labels).getLast? = some e → ¬ e.IsReusable w.tokenClock
  /-- As long as it may be used, no other token is given out or asked for, and all in line are
      served with it, one after the other. -/
  shared : ∀ first later e, labels = first ++ later →
    (w₀.exchanges id first).getLast? = some e → e.IsReusable w.tokenClock →
    w₀.exchanges id labels = w₀.exchanges id first ∧ w.token? id = some e.grant.token ∧
      (∀ i, ¬ w.IsExchanging id i) ∧
      ((w.after ((w.desks id).line.map .run)).desks id).line = [] ∧
      (w.after ((w.desks id).line.map .run)).sent =
        w.sent ++ (w.desks id).line.filterMap (w.turnRequest? id)
  /-- Those who stand at the desk are in its line, each of them once. -/
  nodup : (w.desks id).line.Nodup
  mem_line : ∀ i, i ∈ (w.desks id).line ↔ ∃ t, w.tasks[i]? = some t ∧ t.phase.place? = some id
  /-- The first of them takes its turn: with a token it asks for devices and goes, without one it
      asks for a token, or goes if it cannot. -/
  turn : ∀ i, (w.desks id).line.head? = some i → ¬ w.IsExchanging id i →
    (w.step (.run i)).sent = w.sent ++ (w.turnRequest? id i).toList ∧
      if w.token? id = none ∧ (w.turnRequest? id i).isSome then
        (w.step (.run i)).IsExchanging id i ∧
          ((w.step (.run i)).desks id).line = (w.desks id).line
      else ((w.step (.run i)).desks id).line = (w.desks id).line.tail
  /-- A reply ends an exchange, whatever it says. -/
  reply : ∀ i r, w.IsExchanging id i →
    ((w.step (.reply i r)).desks id).line = (w.desks id).line.tail ∧
      ∀ j, ¬ (w.step (.reply i r)).IsExchanging id j
  /-- Who is canceled, waits too long or is dropped goes, whether it waits for its turn or for a
      token, and the others go on as if it had not been there. -/
  departs : ∀ i t, i ∈ (w.desks id).line → w.tasks[i]? = some t →
    (w.isCanceled t.scope ∨ (∃ alarm, t.alarm? = some alarm ∧ alarm ≤ w.clock) →
      w.Departs (w.step (.run i)) id i) ∧
    (w.isCanceled t.scope → w.IsExchanging id i → ∀ r, w.Departs (w.step (.reply i r)) id i) ∧
    (t.parent = none → w.Departs (w.step (.drop i)) id i ∧
      ∀ j, j ≠ i → (w.step (.cancel i)).turnRequest? id j = w.turnRequest? id j)

/-- **Exchanges are shared.**  Whatever happens to the tasks which want a token, one of them at a time
    asks for one, and only when the last one may not be used any more; the others wait in line and
    take the token which it was given.  Who is canceled or dropped holds nobody up. -/
theorem single_flight {w₀ : World} (htasks : w₀.tasks = []) (hline : ∀ id, (w₀.desks id).line = [])
    (labels : List Label) (id : Nat) : w₀.SingleFlight labels id (w₀.after labels) := by
  have hq₀ := isOrderly_of_tasks htasks hline
  have hq := isOrderly_after hq₀ labels
  have hkin := isKin_after htasks labels
  have hforest := (isForest_of_tasks htasks).after labels
  constructor
  case single => exact fun i j => isExchanging_unique hq
  case starts => exact fun l i => starts_iff hq l id i
  case needed =>
    intro l i e hnot h he hr
    have hnone := token?_of_start hq hnot h
    rw [token?_of_reusable he hr] at hnone
    cases hnone
  case shared =>
    rintro first later e rfl he hr
    have hsame := exchanges_of_reusable hq₀ he hr
    have he' := hsame ▸ he
    have htoken := token?_of_reusable he' hr
    have hnone := not_isExchanging_of_reusable hq₀ he' hr
    exact ⟨hsame, htoken, hnone, after_line hq hkin hforest (by rw [htoken]; rfl) hnone⟩
  case nodup => exact hq.nodup id
  case mem_line => exact fun i => (hq.mem_iff id i).trans Option.bind_eq_some_iff
  case turn => exact fun i hhead hnot => run_of_turn hq hhead hnot
  case reply =>
    intro i r h
    obtain ⟨new, hleaves⟩ := reply_leaves hq h r
    refine ⟨?_, not_isExchanging_of_reply hq h r⟩
    rw [← erase_eq_tail (h.head? hq)]
    exact line_of_leave hleaves
  case departs =>
    intro i t hi ht
    obtain ⟨u, call, api, hu, hp, hasked, -⟩ := call_of_mem_line hq hi
    obtain rfl := Option.some.inj (ht.symm.trans hu)
    refine ⟨run_departs hkin hforest ht hp hasked,
      fun hcanceled h r => reply_departs hkin hforest ht h hcanceled r, ?_⟩
    exact fun hroot => ⟨drop_departs hkin hforest ht hroot hp hasked,
      fun j hj => turnRequest?_cancelTask hkin hforest ht hroot hp hj⟩

/-! ## A crowd -/

/-- Four calls while a token is given out, of which one is dropped. -/
def crowd : List Label :=
  [.call (.interface (.publicApi 0 clerk) false), .run 0,
    .call (.interface (.publicApi 0 clerk) false), .run 1,
    .call (.interface (.publicApi 0 clerk) false), .run 2,
    .call (.interface (.publicApi 0 clerk) false), .run 3, .drop 2, .reply 0 hundred]

/-- One exchange is enough for those who are left. -/
theorem single_flight_crowd : ∃ e, ({} : World).exchanges 0 crowd = [e] ∧
    (({} : World).after crowd).token? 0 = some e.grant.token ∧
    (({} : World).after crowd).sent.map (fun s => (s.task, s.request.method)) =
      [(0, .post), (0, .get)] ∧
    (({} : World).after (crowd ++ [.run 1, .run 3])).sent.map
      (fun s => (s.task, s.request.method)) = [(0, .post), (0, .get), (1, .get), (3, .get)] := by
  have hgiven : (({} : World).exchanges 0 crowd).map (fun e => (e.time, e.grant)) =
      [(.start, ⟨"a", 100⟩)] := by decide +kernel
  obtain ⟨e, he, hgrant⟩ := List.map_eq_singleton_iff.1 hgiven
  obtain ⟨htime, hgrant⟩ := Prod.mk.inj hgrant
  have hreusable : e.IsReusable (({} : World).after crowd).tokenClock := by
    rw [Exchange.IsReusable, htime, hgrant]
    decide +kernel
  obtain ⟨-, htoken, -⟩ := (@single_flight {} rfl (fun _ => rfl) crowd 0).shared crowd [] e
    (List.append_nil _).symm (by rw [he]; rfl) hreusable
  exact ⟨e, he, htoken, by decide +kernel, by decide +kernel⟩

end World

end TailnetTargets
