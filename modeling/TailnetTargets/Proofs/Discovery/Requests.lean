/-
  What is sent in a step.

  * `World.token?`: the token which may be used at a desk;
  * `Sent.Begins`: how a client first asks its interface: for devices, if there is such a token, and
    else for one;
  * `Task.isIdle`: a task has not asked its interface for anything yet;
  * `World.Quiet`: tokens are as they were, and nothing was sent;
  * `World.Asks`: tokens are as they were, and at most one request was sent, by a task which is not
    idle any more;
  * `run_asks`: a task which goes on sends a request only if it was idle.
-/
import TailnetTargets.Proofs.Discovery.Life

namespace TailnetTargets

/-! ## How an interface is asked first -/

/-- The token which may be used at a desk. -/
def World.token? (w : World) (id : Nat) : Option String := (w.desks id).usable? w.tokenClock

/-- Whether a client asks with a token that may be used for devices, or without one for a token. -/
def Sent.Begins (tokens : Nat → Option String) (s : Sent) : Prop :=
  ∀ id api client secret, s.asked = .publicApi id api → api.credentials = .client client secret →
    match tokens id with
    | some token => api.devicesRequest (PublicApi.bearerAuthorization token) = .ok s.request
    | none => api.tokenRequest client secret = .ok s.request

/-- Whether a task has not asked its interface for anything yet. -/
def Task.isIdle (t : Task) : Bool :=
  match t.phase with
  | .ready _ | .calling { stage := .turn, .. } => true
  | _ => false

/-- Whether a task is not idle, if there is such a task. -/
def World.NotIdle (w : World) (i : Nat) : Prop := ∀ t, w.tasks[i]? = some t → ¬ t.isIdle

theorem PublicApi.devicesRequest_ok {api : PublicApi} {authorization : String} {r : Request}
    (h : api.devicesRequest authorization = .ok r) :
    r.method = .get ∧ r.authorization = some authorization := by
  unfold devicesRequest at h
  cases hu : address api.devicesUrl (some authorization) with
  | error fault => rw [hu] at h; cases h
  | ok u => rw [hu] at h; cases h; exact ⟨rfl, rfl⟩

theorem PublicApi.tokenRequest_ok {api : PublicApi} {client secret : String} {r : Request}
    (h : api.tokenRequest client secret = .ok r) : r.method = .post := by
  unfold tokenRequest at h
  cases hu : address api.tokenUrl none with
  | error fault => rw [hu] at h; cases h
  | ok u => rw [hu] at h; cases h; rfl

namespace World

/-- The tokens of a world are as they were, and nothing was sent. -/
structure Quiet (w w' : World) : Prop where
  tokenClock : w'.tokenClock = w.tokenClock
  kept : ∀ id, (w'.desks id).kept = (w.desks id).kept
  sent : w'.sent = w.sent

/-- The tokens of a world are as they were, and at most one request was sent, of a certain kind. -/
structure Asks (P : Sent → Prop) (w w' : World) : Prop where
  tokenClock : w'.tokenClock = w.tokenClock
  kept : ∀ id, (w'.desks id).kept = (w.desks id).kept
  sent : w'.sent = w.sent ∨ ∃ s, w'.sent = w.sent ++ [s] ∧ P s ∧ w'.NotIdle s.task

section
variable {P Q : Sent → Prop} {u v w : World}

theorem Quiet.refl (w : World) : w.Quiet w := ⟨rfl, fun _ => rfl, rfl⟩

theorem Quiet.trans (h : u.Quiet v) (h' : v.Quiet w) : u.Quiet w :=
  ⟨h'.tokenClock.trans h.tokenClock, fun id => (h'.kept id).trans (h.kept id),
    h'.sent.trans h.sent⟩

theorem Quiet.asks (h : w.Quiet v) : Asks P w v := ⟨h.tokenClock, h.kept, Or.inl h.sent⟩

theorem Quiet.token? (h : w.Quiet v) : v.token? = w.token? := by
  funext id
  simp only [World.token?, TokenDesk.usable?, h.kept id, h.tokenClock]

theorem Asks.of_quiet (h : u.Quiet v) (h' : Asks P v w) : Asks P u w where
  tokenClock := h'.tokenClock.trans h.tokenClock
  kept id := (h'.kept id).trans (h.kept id)
  sent := h.sent ▸ h'.sent

theorem Asks.mono (hP : ∀ s, P s → Q s) (h : Asks P w v) : Asks Q w v :=
  ⟨h.tokenClock, h.kept, h.sent.imp_right fun ⟨s, hsent, hs, hidle⟩ => ⟨s, hsent, hP s hs, hidle⟩⟩

theorem Asks.exists_sent (h : Asks P w v) : ∃ new, v.sent = w.sent ++ new := by
  rcases h.sent with h | ⟨s, h, -⟩
  · exact ⟨[], by rw [h, List.append_nil]⟩
  · exact ⟨[s], h⟩

end

/-! ## What sends nothing -/

section
variable (w : World) (i : Nat)

theorem count_quiet (metered : Bool) (events : List Event) : w.Quiet (w.count metered events) := by
  unfold count
  split <;> exact ⟨rfl, fun _ => rfl, rfl⟩

theorem tell_quiet (line : LogLine) : w.Quiet (w.tell line) := ⟨rfl, fun _ => rfl, rfl⟩

theorem setDesk_quiet {id : Nat} {desk : TokenDesk} (h : desk.kept = (w.desks id).kept) :
    w.Quiet (w.setDesk id desk) := by
  refine ⟨rfl, fun n => ?_, rfl⟩
  simp only [setDesk, setAt]
  split
  · next hn => rw [hn, h]
  · rfl

theorem leaveDesk_quiet (asked : Interface) : w.Quiet (w.leaveDesk i asked) := by
  cases asked with
  | localApi socket => exact .refl w
  | publicApi id api => exact w.setDesk_quiet rfl

theorem settle_quiet (rs : List Refresh) (o : Outcome) : w.Quiet (w.settle rs o).1 := by
  induction rs generalizing w o with
  | nil => exact .refl w
  | cons r rs ih =>
    refine Quiet.trans ?_ (ih _ _)
    cases o with
    | found devices => exact ⟨rfl, fun _ => rfl, rfl⟩
    | failed failure => exact w.count_quiet _ _
    | panicked text => exact .refl w

theorem finish_quiet (o : Outcome) : w.Quiet (w.finish i o) := by
  have h := w.settle_quiet (w.refreshesOf i) o
  exact ⟨h.tokenClock, h.kept, h.sent⟩

theorem endCall_quiet (call : Call) (result : Except Failure (List Device)) :
    w.Quiet (w.endCall i call result) := by
  refine (w.leaveDesk_quiet i call.asked).trans ?_
  refine (count_quiet _ call.metered (w.callEvents call result)).trans ?_
  exact (tell_quiet _ _).trans (finish_quiet _ i _)

theorem release_quiet (t : Task) : w.Quiet (w.release i t) := by
  unfold release
  split
  · exact ⟨rfl, fun _ => rfl, rfl⟩
  · exact ⟨rfl, fun _ => rfl, rfl⟩
  · exact ⟨rfl, fun _ => rfl, rfl⟩
  · next call _ =>
    have h := w.leaveDesk_quiet i call.asked
    exact ⟨h.tokenClock, h.kept, h.sent⟩
  · exact .refl w
  · exact .refl w

theorem drop_quiet : w.Quiet (w.drop i) := by
  unfold drop
  split
  · next t _ =>
    have h := w.release_quiet i t
    exact ⟨h.tokenClock, h.kept, h.sent⟩
  · exact .refl w

end

/-! ## What sends a request -/

theorem notIdle_setPhase (w : World) (i : Nat) {phase : Phase}
    (h : ∀ t : Task, t.phase = phase → ¬ t.isIdle) : (w.setPhase i phase).NotIdle i := by
  intro t ht
  rw [setPhase, List.getElem?_modify_eq] at ht
  obtain ⟨u, -, rfl⟩ := Option.map_eq_some_iff.1 ht
  exact h _ rfl

section
variable {P : Sent → Prop} (w : World) (i : Nat)

theorem ask_asks (call : Call) (errand : Errand) {request : Except RequestFault Request}
    (h : ∀ r, request = .ok r → P ⟨i, call.asked, r⟩) : Asks P w (w.ask i call errand request) := by
  have hcount := w.count_quiet call.metered [.request call.asked.endpoint]
  cases request with
  | error fault => exact (hcount.trans (endCall_quiet _ i call _)).asks
  | ok r =>
    refine .of_quiet hcount ⟨rfl, fun _ => rfl, Or.inr ⟨⟨i, call.asked, r⟩, rfl, h r rfl, ?_⟩⟩
    exact notIdle_setPhase _ i fun t ht => by simp [Task.isIdle, ht]

theorem askWith_asks (call : Call) {api : PublicApi} {token : String}
    (h : ∀ r, api.devicesRequest (PublicApi.bearerAuthorization token) = .ok r →
      P ⟨i, call.asked, r⟩) : Asks P w (w.askWith i call api token) :=
  .of_quiet (w.leaveDesk_quiet i call.asked) (ask_asks _ i call .devices h)

/-- Whoever takes a turn looks for a token which may be used. -/
theorem takeTurn_asks (call : Call) :
    Asks (fun s => s.task = i ∧ s.Begins w.token?) w (w.takeTurn i call) := by
  unfold takeTurn
  split
  · exact (Quiet.refl w).asks
  · next id api hasked =>
    split
    · split
      · next token husable =>
        refine w.askWith_asks i call fun r hr => ⟨rfl, fun id' api' client secret h _ => ?_⟩
        cases hasked.symm.trans h
        have htoken : w.token? id = some token := husable
        simp only [htoken]
        exact hr
      · next client secret husable hcredentials =>
        refine w.ask_asks i call .grant fun r hr => ⟨rfl, fun id' api' client' secret' h h' => ?_⟩
        cases hasked.symm.trans h
        cases hcredentials.symm.trans h'
        have htoken : w.token? id = none := husable
        simp only [htoken]
        exact hr
      · exact (Quiet.refl w).asks
    · exact (Quiet.refl w).asks

theorem beginCall_asks (call : Call) :
    Asks (fun s => s.task = i ∧ s.Begins w.token?) w (w.beginCall i call) := by
  unfold beginCall
  split
  · next socket hasked =>
    refine w.ask_asks i call .devices fun r _ => ⟨rfl, fun id api client secret h _ => ?_⟩
    cases hasked.symm.trans h
  · next id api hasked =>
    split
    · next token hcredentials =>
      refine w.ask_asks i call .devices fun r _ => ⟨rfl, fun id' api' client secret h h' => ?_⟩
      cases hasked.symm.trans h
      cases hcredentials.symm.trans h'
    · have hjoin : w.Quiet ((w.setDesk id ((w.desks id).join i)).setPhase i (.calling call)) := by
        have h : w.Quiet (w.setDesk id ((w.desks id).join i)) := w.setDesk_quiet rfl
        exact ⟨h.tokenClock, h.kept, h.sent⟩
      refine .of_quiet hjoin ?_
      rw [← hjoin.token?]
      exact takeTurn_asks _ i call

end

/-- Whoever calls a source asks an interface first if at all. -/
theorem enter_asks (i : Nat) (scope : Scope) : ∀ (s : Source) (w : World),
    Asks (fun s => s.task = i ∧ s.Begins w.token?) w (w.enter i scope s)
  | .scripted id, w => by
    rw [enter, perform]
    dsimp only
    have hcalled : w.Quiet { w with
      scripts := setAt w.scripts id
        { w.scripts id with calls := (w.scripts id).calls + 1 } } := ⟨rfl, fun _ => rfl, rfl⟩
    split
    · exact (hcalled.trans (finish_quiet _ i _)).asks
    · exact Quiet.asks ⟨rfl, fun _ => rfl, rfl⟩
  | .interface asked metered, w => by
    rw [enter]
    split
    · exact (w.endCall_quiet i _ _).asks
    · exact w.beginCall_asks i _
  | .cached id frequency metered inner, w => by
    rw [enter]
    split
    · exact ((w.count_quiet metered _).trans (finish_quiet _ i _)).asks
    · next previous _ =>
      have hcount := w.count_quiet metered [.cacheRequest, .cacheRefresh]
      have hpush : w.Quiet ((w.count metered [.cacheRequest, .cacheRefresh]).pushRefresh i
          ⟨id, frequency, metered, previous⟩) := ⟨hcount.tokenClock, hcount.kept, hcount.sent⟩
      refine .of_quiet hpush ?_
      rw [← hpush.token?]
      exact enter_asks i scope inner _
  | .fanOut metered members, w => by
    have hcount := w.count_quiet metered [.fanOut]
    exact Quiet.asks ⟨hcount.tokenClock, hcount.kept, hcount.sent⟩

/-- A task which goes on asks an interface only if it has not done so before. -/
theorem run_asks (w : World) (i : Nat) :
    Asks (fun s => s.task = i ∧ s.Begins w.token? ∧
      ∃ t, w.tasks[i]? = some t ∧ t.isIdle) w (w.run i) := by
  cases ht : w.tasks[i]? with
  | none =>
    rw [run, ht]
    exact (Quiet.refl w).asks
  | some t =>
    rw [run, ht]
    dsimp only
    split
    · next source hp =>
      refine (enter_asks i t.scope source w).mono fun s hs => ⟨hs.1, hs.2, t, rfl, ?_⟩
      simp [Task.isIdle, hp]
    · next pause _ =>
      split
      · rw [interrupt]
        have hcanceled : w.Quiet { w with
          scripts := setAt w.scripts pause.script { w.scripts pause.script with
            cancellations := (w.scripts pause.script).cancellations + 1 } } :=
          ⟨rfl, fun _ => rfl, rfl⟩
        exact (hcanceled.trans (finish_quiet _ i _)).asks
      · split
        · exact (w.finish_quiet i _).asks
        · exact (Quiet.refl w).asks
    · next call hp =>
      split
      · exact (w.endCall_quiet i call _).asks
      · split
        · next hstage =>
          refine (w.takeTurn_asks i call).mono fun s hs => ⟨hs.1, hs.2, t, rfl, ?_⟩
          obtain ⟨asked, metered, began, stage⟩ := call
          cases hstage
          simp [Task.isIdle, hp]
        · split
          · exact (w.endCall_quiet i call _).asks
          · exact (Quiet.refl w).asks
    · split
      · exact ((w.count_quiet _ _).trans (finish_quiet _ i _)).asks
      · exact (Quiet.refl w).asks
    · exact (Quiet.refl w).asks
    · exact (Quiet.refl w).asks

/-! ## Tasks which are not idle -/

section
variable {w : World} {i : Nat}

end

end World

end TailnetTargets
