/-
  Who waits for a token, and where.

  * `Queue`: the lines at the token desks, the desk at which each task stands, the desk from which a
    task is being given a token, and the requests which were sent;
  * `Queue.Arrives`, `Queue.Goes`: a step lets one task come to a desk, and then go from it or ask
    for a token there (`step_goes`);
  * `Queue.IsOrderly`: those who stand at a desk are the ones in its line, and only the first of them
    is being given a token (`isOrderly_after`).
-/
import TailnetTargets.Proofs.Discovery.Exchange

namespace TailnetTargets

/-! ## Desks -/

/-- The token desk of an interface. -/
def Interface.desk? : Interface → Option Nat
  | localApi _ => none
  | publicApi id _ => some id

namespace Phase

/-- The token desk at which a task stands. -/
def place? : Phase → Option Nat
  | calling { asked := .publicApi id api, stage := .turn, .. } =>
    match api.credentials with
    | .client .. => some id
    | .token _ => none
  | calling { asked := .publicApi id _, stage := .reply .grant _, .. } => some id
  | _ => none

/-- The token desk from which a task is being given a token. -/
def grants? : Phase → Option Nat
  | calling { asked := .publicApi id _, stage := .reply .grant _, .. } => some id
  | _ => none

/-- Who calls an interface stands at its desk, if at any. -/
theorem desk?_of_place? {call : Call} {id : Nat} (h : (calling call).place? = some id) :
    call.asked.desk? = some id := by
  unfold place? at h
  split at h
  · split at h <;> grind [Interface.desk?]
  · grind [Interface.desk?]
  · cases h

end Phase

theorem Task.exchanging?_map (t : Task) : t.exchanging?.map (·.1) = t.phase.grants? := by
  unfold exchanging? Phase.grants?
  split <;> simp_all

/-! ## Queues -/

/-- What happens at the token desks. -/
structure Queue where
  /-- those who wait at each desk -/
  line : Nat → List Nat
  /-- the desk at which each task stands -/
  place : Nat → Option Nat
  /-- the desk from which each task is being given a token -/
  busy : Nat → Option Nat
  /-- the requests which were sent -/
  sent : List Sent

namespace Queue

/-- A task stands at a desk, and is perhaps being given a token there. -/
def put (q : Queue) (i : Nat) (phase : Phase) : Queue :=
  { q with place := setAt q.place i phase.place?, busy := setAt q.busy i phase.grants? }

/-- A task goes from a line. -/
def erase (q : Queue) (desk : Option Nat) (i : Nat) : Queue :=
  { q with line := fun id => if desk = some id then (q.line id).erase i else q.line id }

/-- A task goes from a desk, and perhaps sends requests. -/
def leave (q : Queue) (desk : Option Nat) (i : Nat) (new : List Sent) : Queue :=
  { q.erase desk i with
    place := setAt q.place i none, busy := setAt q.busy i none, sent := q.sent ++ new }

/-- A task comes to a desk. -/
def join (q : Queue) (id i : Nat) : Queue :=
  { q with
    line := setAt q.line id (q.line id ++ [i])
    place := setAt q.place i (some id), busy := setAt q.busy i none }

/-- A task asks for a token at a desk. -/
def ask (q : Queue) (id i : Nat) (s : Sent) : Queue :=
  { q with
    place := setAt q.place i (some id), busy := setAt q.busy i (some id), sent := q.sent ++ [s] }

/-- A task comes to a desk, or it is where it was. -/
inductive Arrives (i : Nat) (q : Queue) : Queue → Prop where
  | stays : Arrives i q q
  | joins {id : Nat} (h : q.place i = none) : Arrives i q (q.join id i)

/-- What a task does with the tokens that may be used: it goes from the desk at which it stands and
    asks for devices at most, or it asks for a token where there is none and it is the first. -/
inductive Goes (tokens : Nat → Option String) (i : Nat) (q : Queue) : Queue → Prop where
  | stays : Goes tokens i q q
  | leaves {desk : Option Nat} {new : List Sent}
      (hdesk : ∀ id, q.place i = some id → desk = some id)
      (hnew : ∀ s ∈ new, s.task = i ∧ s.request.method = .get) :
      Goes tokens i q (q.leave desk i new)
  | asks {id : Nat} {s : Sent} (hturn : (q.line id).head? = some i) (hbusy : q.busy i = none)
      (htoken : tokens id = none) (htask : s.task = i) (hasked : s.asked.desk? = some id)
      (hpost : s.request.method = .post) : Goes tokens i q (q.ask id i s)

/-- Those who stand at a desk are the ones in its line, and only the first of them is being given
    a token. -/
structure IsOrderly (q : Queue) : Prop where
  nodup : ∀ id, (q.line id).Nodup
  mem_iff : ∀ id i, i ∈ q.line id ↔ q.place i = some id
  first : ∀ id i, q.busy i = some id → (q.line id).head? = some i

section
variable {q q' : Queue} {tokens : Nat → Option String} {i : Nat}

/-- Who goes from the desk where it stands need not ask for anything. -/
theorem Goes.quits {desk : Option Nat} (hdesk : ∀ id, q.place i = some id → desk = some id) :
    q.Goes tokens i (q.leave desk i []) :=
  .leaves hdesk (by simp)

theorem Goes.quits_of_none {desk : Option Nat} (h : q.place i = none) :
    q.Goes tokens i (q.leave desk i []) :=
  .quits fun id hid => by
    rw [h] at hid
    cases hid

theorem head?_erase_of_ne {line : List Nat} {j : Nat} (h : line.head? = some j) (hij : j ≠ i) :
    (line.erase i).head? = some j := by
  cases line with
  | nil => cases h
  | cons k line =>
    cases h
    rw [List.erase_cons_tail (by simpa using hij)]
    rfl

/-- Who goes twice goes once. -/
theorem leave_erase (hq : q.IsOrderly) (desk : Option Nat) (new : List Sent)
    {desk' : Option Nat} (h : desk' = none ∨ desk' = desk) :
    (q.erase desk i).leave desk' i new = q.leave desk i new := by
  have hline : ((q.erase desk i).erase desk' i).line = (q.erase desk i).line := by
    funext id
    rcases h with rfl | rfl
    · rfl
    · simp only [erase]
      split
      · exact List.erase_of_not_mem (hq.nodup id).not_mem_erase
      · rfl
  simp only [leave, hline]
  rfl

theorem IsOrderly.arrives (hq : q.IsOrderly) (h : q.Arrives i q') : q'.IsOrderly := by
  cases h with
  | stays => exact hq
  | @joins id hplace =>
    have hnot : ∀ n, i ∉ q.line n := fun n hi => by
      rw [hq.mem_iff, hplace] at hi
      cases hi
    refine ⟨fun n => ?_, fun n j => ?_, fun n j => ?_⟩
    · by_cases hn : n = id
      · subst hn
        simpa [join, List.nodup_append] using ⟨hq.nodup n, fun a ha hai => hnot n (hai ▸ ha)⟩
      · simpa [join, setAt_of_ne _ _ hn] using hq.nodup n
    · by_cases hj : j = i
      · subst hj
        by_cases hn : n = id
        · simp [join, hn]
        · simpa [join, setAt_of_ne _ _ hn, Ne.symm hn] using hnot n
      · by_cases hn : n = id
        · subst hn
          simpa [join, setAt_of_ne _ _ hj, hj] using hq.mem_iff n j
        · simpa [join, setAt_of_ne _ _ hj, setAt_of_ne _ _ hn] using hq.mem_iff n j
    · intro hbusy
      by_cases hj : j = i
      · simp [join, hj] at hbusy
      · have hfirst := hq.first n j (by simpa [join, setAt_of_ne _ _ hj] using hbusy)
        by_cases hn : n = id
        · subst hn
          simp [join, List.head?_append, hfirst]
        · simpa [join, setAt_of_ne _ _ hn] using hfirst

theorem IsOrderly.goes (hq : q.IsOrderly) (h : q.Goes tokens i q') : q'.IsOrderly := by
  cases h with
  | stays => exact hq
  | @leaves desk new hdesk _ =>
    refine ⟨fun n => ?_, fun n j => ?_, fun n j => ?_⟩
    · simp only [leave, erase]
      split
      · exact (hq.nodup n).erase i
      · exact hq.nodup n
    · have hplace : i ∈ q.line n → desk = some n := fun hi => hdesk n ((hq.mem_iff n i).1 hi)
      simp only [leave, erase]
      by_cases hj : j = i
      · subst hj
        split
        · simpa using (hq.nodup n).not_mem_erase
        · next hn => simpa using fun hi => hn (hplace hi)
      · rw [setAt_of_ne _ _ hj]
        split
        · exact (List.mem_erase_of_ne hj).trans (hq.mem_iff n j)
        · exact hq.mem_iff n j
    · intro hbusy
      by_cases hj : j = i
      · simp [leave, hj] at hbusy
      · have hfirst := hq.first n j (by simpa [leave, setAt_of_ne _ _ hj] using hbusy)
        simp only [leave, erase]
        split
        · exact head?_erase_of_ne hfirst hj
        · exact hfirst
  | @asks id s hturn _ _ _ _ _ =>
    have hplace : q.place i = some id := (hq.mem_iff id i).1 (List.mem_of_head? hturn)
    refine ⟨hq.nodup, fun n j => ?_, fun n j hbusy => ?_⟩
    · by_cases hj : j = i
      · subst hj
        simpa [ask, hplace] using hq.mem_iff n j
      · simpa [ask, setAt_of_ne _ _ hj] using hq.mem_iff n j
    · by_cases hj : j = i
      · subst hj
        obtain rfl : id = n := by simpa [ask] using hbusy
        exact hturn
      · exact hq.first n j (by simpa [ask, setAt_of_ne _ _ hj] using hbusy)

end

end Queue

namespace World

/-- What happens at the token desks of a world. -/
def queue (w : World) : Queue where
  line id := (w.desks id).line
  place i := w.tasks[i]?.bind (·.phase.place?)
  busy i := w.tasks[i]?.bind (·.phase.grants?)
  sent := w.sent

/-! ## What a task does at desks -/

section
variable (w : World) (i : Nat)

theorem count_queue (metered : Bool) (events : List Event) :
    (w.count metered events).queue = w.queue := by
  unfold count
  split <;> rfl

theorem count_length (metered : Bool) (events : List Event) :
    (w.count metered events).tasks.length = w.tasks.length :=
  congrArg List.length (w.count_agrees metered events).tasks

theorem settle_queue (rs : List Refresh) (o : Outcome) : (w.settle rs o).1.queue = w.queue := by
  induction rs generalizing w o with
  | nil => rfl
  | cons r rs ih =>
    refine (ih _ _).trans ?_
    cases o with
    | found devices => rfl
    | failed failure => exact count_queue w _ _
    | panicked text => rfl

theorem getElem?_setPhase (phase : Phase) (j : Nat) : (w.setPhase i phase).tasks[j]? =
    if j = i then w.tasks[i]?.map fun t => { t with phase } else w.tasks[j]? := by
  split
  · next h => rw [h, setPhase, List.getElem?_modify_eq]; rfl
  · next h => rw [setPhase, List.getElem?_modify_ne _ _ (Ne.symm h)]

theorem setPhase_queue {phase : Phase}
    (h : i < w.tasks.length ∨ phase.place? = none ∧ phase.grants? = none) :
    (w.setPhase i phase).queue = w.queue.put i phase := by
  have hbind : ∀ f : Phase → Option Nat, (i < w.tasks.length ∨ f phase = none) →
      (fun j => (w.setPhase i phase).tasks[j]?.bind fun t => f t.phase) =
        setAt (fun j => w.tasks[j]?.bind fun t => f t.phase) i (f phase) := by
    intro f hf
    funext j
    rw [getElem?_setPhase]
    by_cases hj : j = i
    · subst hj
      rw [if_pos rfl, setAt_self]
      rcases hf with hlt | hf
      · rw [List.getElem?_eq_getElem hlt]
        rfl
      · rw [hf]
        cases w.tasks[j]? with
        | none => rfl
        | some t => exact hf
    · rw [if_neg hj, setAt_of_ne _ _ hj]
  have hplace := hbind Phase.place? (h.imp_right (·.1))
  have hbusy := hbind Phase.grants? (h.imp_right (·.2))
  simp only [queue, Queue.put, hplace, hbusy]
  rfl

theorem setDesk_queue (id : Nat) (desk : TokenDesk) :
    (w.setDesk id desk).queue = { w.queue with line := setAt w.queue.line id desk.line } := by
  have hline : (fun n => (setAt w.desks id desk n).line) =
      setAt (fun n => (w.desks n).line) id desk.line := by
    funext n
    by_cases hn : n = id
    · rw [hn, setAt_self, setAt_self]
    · rw [setAt_of_ne _ _ hn, setAt_of_ne _ _ hn]
  simp only [queue, setDesk, hline]

theorem leaveDesk_queue (asked : Interface) :
    (w.leaveDesk i asked).queue = w.queue.erase asked.desk? i := by
  cases asked with
  | localApi socket => rfl
  | publicApi id api =>
    refine (w.setDesk_queue id _).trans ?_
    have hline : setAt w.queue.line id ((w.desks id).leave i).line =
        (w.queue.erase (some id) i).line := by
      funext n
      by_cases hn : n = id
      · rw [hn, setAt_self]
        simp [Queue.erase, TokenDesk.leave, queue]
      · rw [setAt_of_ne _ _ hn]
        simp [Queue.erase, Ne.symm hn]
    rw [hline]
    rfl

/-- The line stays as it is when a token is kept. -/
theorem keep_queue (id : Nat) (now : Instant) (grant : Grant) :
    (w.setDesk id ((w.desks id).keep now grant)).queue = w.queue := by
  have hline : setAt w.queue.line id ((w.desks id).keep now grant).line = w.queue.line := by
    funext n
    by_cases hn : n = id
    · rw [hn, setAt_self]
      rfl
    · rw [setAt_of_ne _ _ hn]
  rw [setDesk_queue, hline]

/-- Who does something else is at no desk any more. -/
theorem setPhase_leave {phase : Phase} (h : phase.place? = none ∧ phase.grants? = none) :
    (w.setPhase i phase).queue = w.queue.leave none i [] := by
  rw [setPhase_queue w i (Or.inr h), Queue.put, h.1, h.2]
  simp [Queue.leave, Queue.erase]

theorem finish_queue (o : Outcome) : (w.finish i o).queue = w.queue.leave none i [] := by
  refine (setPhase_leave (w.settle (w.refreshesOf i) o).1 i ⟨rfl, rfl⟩).trans ?_
  rw [settle_queue]

theorem endCall_queue (call : Call) (result : Except Failure (List Device)) :
    (w.endCall i call result).queue = w.queue.leave call.asked.desk? i [] := by
  unfold endCall
  refine (finish_queue _ i _).trans ?_
  have h : ((((w.leaveDesk i call.asked).count call.metered (w.callEvents call result)).tell
      (call.asked.lineOf result))).queue = (w.leaveDesk i call.asked).queue := count_queue _ _ _
  rw [h, leaveDesk_queue]
  rfl

theorem send_setPhase_queue (asked : Interface) (request : Request) {phase : Phase}
    (h : phase.place? = none ∧ phase.grants? = none) :
    ((w.send i asked request).setPhase i phase).queue =
      w.queue.leave none i [⟨i, asked, request⟩] := by
  rw [setPhase_leave _ i h]
  simp [Queue.leave, Queue.erase, queue, send]

/-- Who asks for devices is at no desk any more. -/
theorem ask_devices_queue (call : Call) {request : Except RequestFault Request}
    (hget : ∀ r, request = .ok r → r.method = .get) :
    ∃ desk new, (desk = none ∨ desk = call.asked.desk?) ∧
      (∀ s ∈ new, s.task = i ∧ s.request.method = .get) ∧
      (w.ask i call .devices request).queue = w.queue.leave desk i new := by
  have hcount := w.count_queue call.metered [.request call.asked.endpoint]
  cases request with
  | error fault =>
    refine ⟨_, [], Or.inr rfl, by simp, ?_⟩
    rw [ask, endCall_queue, hcount]
  | ok r =>
    refine ⟨none, [⟨i, call.asked, r⟩], Or.inl rfl, by simpa using hget r rfl, ?_⟩
    rw [ask, send_setPhase_queue _ _ _ _ ⟨by simp [Phase.place?], by simp [Phase.grants?]⟩, hcount]

/-- Who asks for devices with a token which was given out has gone from the desk. -/
theorem askWith_queue (hq : w.queue.IsOrderly) (call : Call) (api : PublicApi) (token : String) :
    ∃ new, (∀ s ∈ new, s.task = i ∧ s.request.method = .get) ∧
      (w.askWith i call api token).queue = w.queue.leave call.asked.desk? i new := by
  obtain ⟨desk, new, hdesk, hnew, h⟩ := (w.leaveDesk i call.asked).ask_devices_queue i call
    fun r hr => (@PublicApi.devicesRequest_ok api _ _ hr).1
  refine ⟨new, hnew, ?_⟩
  rw [askWith, h, leaveDesk_queue, Queue.leave_erase hq _ _ hdesk]

/-- Who asks for a token is being given one. -/
theorem ask_grant_queue (hi : i < w.tasks.length) {call : Call} {id : Nat}
    (hdesk : call.asked.desk? = some id) (r : Request) :
    (w.ask i call .grant (.ok r)).queue = w.queue.ask id i ⟨i, call.asked, r⟩ := by
  have hcount := w.count_queue call.metered [.request call.asked.endpoint]
  have hlt : i < ((w.count call.metered [.request call.asked.endpoint]).send i call.asked
      r).tasks.length := by
    rw [send, count_length]
    exact hi
  have hphase : ∀ alarm,
      (Phase.calling { call with stage := .reply .grant alarm }).place? = some id ∧
        (Phase.calling { call with stage := .reply .grant alarm }).grants? = some id := by
    intro alarm
    obtain ⟨asked, metered, began, stage⟩ := call
    cases asked with
    | localApi socket => cases hdesk
    | publicApi n api => exact ⟨hdesk, hdesk⟩
  have hsend : ((w.count call.metered [.request call.asked.endpoint]).send i call.asked r).queue =
      { w.queue with sent := w.queue.sent ++ [⟨i, call.asked, r⟩] } := by
    rw [← hcount]
    rfl
  rw [ask, setPhase_queue _ i (Or.inl hlt), Queue.put, (hphase _).1, (hphase _).2, hsend]
  rfl

end

section
variable {w : World} {i : Nat} {tokens : Nat → Option String}

theorem endCall_goes {call : Call} (result : Except Failure (List Device))
    (hplace : ∀ id, w.queue.place i = some id → call.asked.desk? = some id) :
    w.queue.Goes tokens i (w.endCall i call result).queue := by
  rw [endCall_queue]
  exact .quits hplace

/-- Who is at no desk asks for devices. -/
theorem ask_devices_goes {call : Call} {request : Except RequestFault Request}
    (hplace : w.queue.place i = none) (hget : ∀ r, request = .ok r → r.method = .get) :
    w.queue.Goes tokens i (w.ask i call .devices request).queue := by
  obtain ⟨desk, new, -, hnew, h⟩ := w.ask_devices_queue i call hget
  rw [h]
  exact .leaves (fun id hid => by rw [hplace] at hid; cases hid) hnew

/-- Who was given a token goes and asks for devices. -/
theorem askWith_goes (hq : w.queue.IsOrderly) {call : Call} {api : PublicApi} {token : String}
    (hplace : ∀ id, w.queue.place i = some id → call.asked.desk? = some id) :
    w.queue.Goes tokens i (w.askWith i call api token).queue := by
  obtain ⟨new, hnew, h⟩ := w.askWith_queue i hq call api token
  rw [h]
  exact .leaves hplace hnew

/-- Who takes a turn is the first in line, and asks for a token only where there is none. -/
theorem takeTurn_goes (hq : w.queue.IsOrderly) (hi : i < w.tasks.length) {call : Call}
    (hplace : ∀ id, w.queue.place i = some id → call.asked.desk? = some id)
    (hbusy : w.queue.busy i = none) :
    w.queue.Goes w.token? i (w.takeTurn i call).queue := by
  unfold takeTurn
  split
  · exact .stays
  · next id api hasked =>
    split
    · next hturn =>
      split
      · exact askWith_goes hq hplace
      · next client secret husable _ =>
        cases hr : api.tokenRequest client secret with
        | error fault =>
          rw [ask, endCall_queue, count_queue]
          exact .quits hplace
        | ok r =>
          rw [ask_grant_queue w i hi (by rw [hasked]; rfl)]
          exact .asks (of_decide_eq_true hturn) hbusy husable rfl (by rw [hasked]; rfl)
            (PublicApi.tokenRequest_ok hr)
      · exact .stays
    · exact .stays

/-- Who begins a call comes to a desk, or asks for devices without a token that is given out. -/
theorem beginCall_goes (hq : w.queue.IsOrderly) (hi : i < w.tasks.length) {call : Call}
    (hplace : w.queue.place i = none) (hstage : call.stage = .turn) :
    ∃ q, w.queue.Arrives i q ∧ q.Goes w.token? i (w.beginCall i call).queue := by
  unfold beginCall
  split
  · exact ⟨_, .stays, ask_devices_goes hplace fun r hr => by cases hr; rfl⟩
  · next id api hasked =>
    split
    · exact ⟨_, .stays, ask_devices_goes hplace fun r hr => (PublicApi.devicesRequest_ok hr).1⟩
    · next client secret hcredentials =>
      let v := (w.setDesk id ((w.desks id).join i)).setPhase i (.calling call)
      have hphase : (Phase.calling call).place? = some id ∧ (Phase.calling call).grants? = none := by
        obtain ⟨asked, metered, began, stage⟩ := call
        obtain ⟨base, tailnet, credentials⟩ := api
        cases hasked
        cases hstage
        cases hcredentials
        exact ⟨rfl, rfl⟩
      have hv : v.queue = w.queue.join id i := by
        refine (setPhase_queue (w.setDesk id ((w.desks id).join i)) i (Or.inl hi)).trans ?_
        rw [setDesk_queue, Queue.put, hphase.1, hphase.2]
        rfl
      have harrives : w.queue.Arrives i v.queue := hv ▸ .joins hplace
      have hquiet : w.Quiet v := by
        have h : w.Quiet (w.setDesk id ((w.desks id).join i)) := w.setDesk_quiet rfl
        exact ⟨h.tokenClock, h.kept, h.sent⟩
      have hlt : i < v.tasks.length := by
        simpa [v, setPhase, setDesk] using hi
      refine ⟨v.queue, harrives, ?_⟩
      rw [← hquiet.token?]
      refine takeTurn_goes (hq.arrives harrives) hlt (fun n hn => ?_) (by rw [hv]; simp [Queue.join])
      rw [hv] at hn
      obtain rfl : id = n := by simpa [Queue.join] using hn
      rw [hasked]
      rfl

theorem spawn_queue (w : World) (new : List Task) (h : ∀ t ∈ new, t.isReady) :
    (w.spawn new).queue = w.queue := by
  have hbind : ∀ f : Phase → Option Nat, (∀ s, f (.ready s) = none) →
      (fun j : Nat => (w.spawn new).tasks[j]?.bind fun t : Task => f t.phase) =
        fun j => w.tasks[j]?.bind fun t : Task => f t.phase := by
    intro f hf
    funext j
    by_cases hj : j < w.tasks.length
    · rw [spawn, List.getElem?_append_left hj]
    · rw [spawn, List.getElem?_append_right (Nat.not_lt.1 hj),
        List.getElem?_eq_none (Nat.not_lt.1 hj)]
      cases ht : new[j - w.tasks.length]? with
      | none => rfl
      | some t =>
        obtain ⟨s, hs⟩ := Task.isReady_iff.1 (h t (List.mem_of_getElem? ht))
        simp [hs, hf s]
  simp only [queue, hbind Phase.place? fun _ => rfl, hbind Phase.grants? fun _ => rfl]
  rfl

theorem pushRefresh_queue (w : World) (i : Nat) (r : Refresh) :
    (w.pushRefresh i r).queue = w.queue := by
  have hbind : ∀ f : Phase → Option Nat,
      (fun j : Nat => (w.pushRefresh i r).tasks[j]?.bind fun t : Task => f t.phase) =
        fun j => w.tasks[j]?.bind fun t : Task => f t.phase := by
    intro f
    funext j
    rw [pushRefresh]
    by_cases hj : i = j
    · subst hj
      rw [List.getElem?_modify_eq]
      cases w.tasks[i]? <;> rfl
    · rw [List.getElem?_modify_ne _ _ hj]
  simp only [queue, hbind Phase.place?, hbind Phase.grants?]
  rfl

/-- Who calls a source comes to a desk at most. -/
theorem enter_goes (i : Nat) (scope : Scope) : ∀ (s : Source) (w : World), w.queue.IsOrderly →
    i < w.tasks.length → w.queue.place i = none →
    ∃ q, w.queue.Arrives i q ∧ q.Goes w.token? i (w.enter i scope s).queue
  | .scripted id, w, _, hi, hplace => by
    refine ⟨_, .stays, ?_⟩
    rw [enter, perform]
    dsimp only
    split
    · rw [finish_queue]
      exact .quits_of_none hplace
    · rw [setPhase_leave _ i ⟨rfl, rfl⟩]
      exact .quits_of_none hplace
  | .interface asked metered, w, hq, hi, hplace => by
    rw [enter]
    split
    · exact ⟨_, .stays, endCall_goes _ (by simp [hplace])⟩
    · exact beginCall_goes hq hi hplace rfl
  | .cached id frequency metered inner, w, hq, hi, hplace => by
    rw [enter]
    split
    · refine ⟨_, .stays, ?_⟩
      rw [finish_queue, count_queue]
      exact .quits_of_none hplace
    · next previous _ =>
      let v := (w.count metered [.cacheRequest, .cacheRefresh]).pushRefresh i
        ⟨id, frequency, metered, previous⟩
      have hv : v.queue = w.queue := (pushRefresh_queue _ i _).trans (count_queue _ _ _)
      have hlt : i < v.tasks.length := by
        simpa [v, pushRefresh, count_length] using hi
      have hquiet : w.Quiet v := by
        have hcount := w.count_quiet metered [.cacheRequest, .cacheRefresh]
        exact ⟨hcount.tokenClock, hcount.kept, hcount.sent⟩
      rw [← hv] at hq hplace ⊢
      rw [← hquiet.token?]
      exact enter_goes i scope inner v hq hlt hplace
  | .fanOut metered members, w, _, _, hplace => by
    refine ⟨_, .stays, ?_⟩
    have h : (w.enter i scope (.fanOut metered members)).queue = w.queue.leave none i [] := by
      rw [enter]
      refine (spawn_queue _ (memberTasks scope i members) fun t ht => ?_).trans ?_
      · obtain ⟨m, -, rfl⟩ := List.mem_map.1 ht
        rfl
      · rw [setPhase_leave _ i ⟨rfl, rfl⟩, count_queue]
    rw [h]
    exact .quits_of_none hplace

/-- A task which goes on comes to a desk, goes from the one where it stands, or asks for a token. -/
theorem run_goes (hq : w.queue.IsOrderly) (i : Nat) :
    ∃ q, w.queue.Arrives i q ∧ q.Goes w.token? i (w.run i).queue := by
  cases ht : w.tasks[i]? with
  | none =>
    rw [run, ht]
    exact ⟨_, .stays, .stays⟩
  | some t =>
    have hi := (List.getElem?_eq_some_iff.1 ht).1
    have hplace : w.queue.place i = t.phase.place? := by simp [queue, ht]
    have hbusy : w.queue.busy i = t.phase.grants? := by simp [queue, ht]
    rw [run, ht]
    dsimp only
    split
    · next source hp =>
      rw [hp] at hplace
      exact enter_goes i t.scope source w hq hi hplace
    all_goals refine ⟨_, .stays, ?_⟩
    · next pause hp =>
      have hnone : w.queue.place i = none := by rw [hplace, hp]; rfl
      split
      · rw [interrupt, finish_queue]
        exact .quits_of_none hnone
      · split
        · rw [finish_queue]
          exact .quits_of_none hnone
        · exact .stays
    · next call hp =>
      have hdesk : ∀ n, w.queue.place i = some n → call.asked.desk? = some n := fun n hn => by
        rw [hplace, hp] at hn
        exact Phase.desk?_of_place? hn
      split
      · exact endCall_goes _ hdesk
      · split
        · next hstage =>
          refine takeTurn_goes hq hi hdesk ?_
          obtain ⟨asked, metered, began, stage⟩ := call
          cases hstage
          simp [hbusy, hp, Phase.grants?]
        · split
          · exact endCall_goes _ hdesk
          · exact .stays
    · next metered first count hp =>
      split
      · rw [finish_queue, count_queue]
        exact .quits_of_none (by rw [hplace, hp]; rfl)
      · exact .stays
    · exact .stays
    · exact .stays

theorem reply_goes (hq : w.queue.IsOrderly) (i : Nat) (r : Reply) :
    w.queue.Goes w.token? i (w.reply i r).queue := by
  unfold reply
  split
  · next scope parent rs call ht =>
    have hdesk : ∀ n, w.queue.place i = some n → call.asked.desk? = some n := fun n hn => by
      have hplace : w.queue.place i = (Phase.calling call).place? := by simp [queue, ht]
      rw [hplace] at hn
      exact Phase.desk?_of_place? hn
    split
    · exact .stays
    · next errand _ _ =>
      split
      · exact endCall_goes _ hdesk
      · cases errand with
        | devices => exact endCall_goes _ hdesk
        | grant =>
          simp only [handle]
          split
          · exact .stays
          · next id api hasked =>
            split
            · exact endCall_goes _ hdesk
            · next grant _ =>
              let v := (w.setDesk id ((w.desks id).keep w.tokenClock grant)).tell
                (TokenDesk.lineOf w.tokenClock grant)
              have hv : v.queue = w.queue := keep_queue w id w.tokenClock grant
              have hgoes : v.queue.Goes w.token? i (v.askWith i call api grant.token).queue :=
                askWith_goes (hv ▸ hq) (hv ▸ hdesk)
              rw [hv] at hgoes
              exact hgoes
  · exact .stays

theorem release_goes {t : Task} (ht : w.tasks[i]? = some t) :
    w.queue.Goes tokens i (w.release i t).queue := by
  have hplace : w.queue.place i = t.phase.place? := by simp [queue, ht]
  have helsewhere : t.phase.place? = none →
      w.queue.Goes tokens i (w.setPhase i .dropped).queue := fun hnone => by
    rw [setPhase_leave _ i ⟨rfl, rfl⟩]
    exact .quits_of_none (hplace.trans hnone)
  unfold release
  split
  · next s hp => exact helsewhere (by rw [hp]; rfl)
  · next pause hp => exact helsewhere (by rw [hp]; rfl)
  · next metered first count hp => exact helsewhere (by rw [hp]; rfl)
  · next call hp =>
    have h : ((w.leaveDesk i call.asked).setPhase i .dropped).queue =
        w.queue.leave call.asked.desk? i [] := by
      rw [setPhase_leave _ i ⟨rfl, rfl⟩, leaveDesk_queue]
      rfl
    rw [h]
    refine .quits fun n hn => ?_
    rw [hplace, hp] at hn
    exact Phase.desk?_of_place? hn
  · exact .stays
  · exact .stays

theorem drop_goes (w : World) (i : Nat) : w.queue.Goes tokens i (w.drop i).queue := by
  unfold drop
  split
  · next t hr =>
    have h : w.queue.Goes tokens i (w.release i t).queue :=
      release_goes (root?_eq_some_iff.1 hr).1
    exact h
  · exact .stays

/-- **A step lets one task come to a desk, and then go from it or ask for a token there.** -/
theorem step_goes (hq : w.queue.IsOrderly) (l : Label) :
    ∃ i q, w.queue.Arrives i q ∧ q.Goes w.token? i (w.step l).queue := by
  have hready : ∀ scope source, (w.begin scope source).queue = w.queue := fun scope source =>
    spawn_queue w _ (by simp [Task.isReady])
  cases l with
  | call source => exact ⟨0, _, .stays, by rw [step, hready]; exact .stays⟩
  | serve source => exact ⟨0, _, .stays, by rw [step, hready]; exact .stays⟩
  | run i => exact ⟨i, run_goes hq i⟩
  | reply i r => exact ⟨i, _, .stays, reply_goes hq i r⟩
  | drop i => exact ⟨i, _, .stays, w.drop_goes i⟩
  | cancel i =>
    refine ⟨i, _, .stays, ?_⟩
    rw [step, cancelTask]
    split <;> exact .stays
  | shutDown => exact ⟨0, _, .stays, .stays⟩
  | advance d => exact ⟨0, _, .stays, .stays⟩
  | age d => exact ⟨0, _, .stays, .stays⟩

end

/-! ## Runs -/

theorem isOrderly_of_tasks {w : World} (htasks : w.tasks = []) (hline : ∀ id, (w.desks id).line = []) :
    w.queue.IsOrderly where
  nodup id := by simp [queue, hline]
  mem_iff id i := by simp [queue, hline, htasks]
  first id i h := by simp [queue, htasks] at h

/-- Those who stand at desks are in line whatever happens. -/
theorem isOrderly_after {w : World} (hw : w.queue.IsOrderly) (labels : List Label) :
    (w.after labels).queue.IsOrderly := by
  induction labels generalizing w with
  | nil => exact hw
  | cons l labels ih =>
    obtain ⟨i, q, harrives, hgoes⟩ := step_goes hw l
    exact ih ((hw.arrives harrives).goes hgoes)

end World

end TailnetTargets
