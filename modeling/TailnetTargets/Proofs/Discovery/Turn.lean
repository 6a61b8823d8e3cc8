/-
  How a task goes on.

  * `World.Calls w s rs s'`: the call of `s` goes on as the call of `s'`, for which the caches `rs`
    wait;
  * `World.Turn`: a task waits for something, perhaps for tasks which it begins, or it ends.
    `Source.Ends`, `Source.Waits`, `Phase.Ends` and `Phase.Waits` say how;
  * `enter_turn`, `run_turn` and `reply_turn`: whatever a task does is such a turn.
    `enter_passAll`, `enter_eq` and `enter_calls`: a call which goes on as another one does what
    that one does.
-/
import TailnetTargets.Proofs.Discovery.Agreement

namespace TailnetTargets

/-! ## Failures of a single source -/

/-- Whether a failure is one of a single source, which nothing stands in for. -/
def Failure.IsPlain : Failure → Prop
  | request .. | unexpectedStatus .. | payload .. | canceled => True
  | _ => False

/-- Whether an outcome is one of a single source. -/
def Outcome.IsPlain : Outcome → Prop
  | found _ | panicked _ => True
  | failed failure => failure.IsPlain

theorem Reply.decode_isPlain {α : Type} {api : String} {faults : TransportFaults}
    {decoder : Decoder α} {r : Reply} {f : Failure}
    (h : r.decode api faults decoder = .error f) : f.IsPlain := by
  unfold Reply.decode at h
  cases hb : r.body api faults with
  | ok bytes =>
    simp only [hb, bind, Except.bind] at h
    split at h <;> cases h
    trivial
  | error g =>
    simp only [hb, bind, Except.bind] at h
    cases h
    unfold Reply.body at hb
    split at hb
    · cases hb; trivial
    · cases hb; trivial
    · split at hb
      · cases hb; trivial
      · split at hb <;> cases hb
        trivial

theorem Except.map_eq_error {ε α β : Type} {f : α → β} {x : Except ε α} {e : ε}
    (h : x.map f = .error e) : x = .error e := by
  cases x <;> cases h
  rfl

theorem Interface.devices_isPlain (asked : Interface) (r : Reply) :
    (Outcome.ofExcept (asked.devices r)).IsPlain := by
  cases h : asked.devices r with
  | ok devices => trivial
  | error f =>
    cases asked with
    | localApi socket => exact Reply.decode_isPlain (Except.map_eq_error h)
    | publicApi id api => exact Reply.decode_isPlain (Except.map_eq_error h)

theorem Interface.tooSlow_isPlain (asked : Interface) (errand : Errand) :
    (asked.tooSlow errand).IsPlain := by
  cases asked <;> cases errand <;> trivial

namespace World

/-! ## Turns -/

/-- What a task does: it waits for something, perhaps for tasks which it begins, or it ends. -/
inductive Turn (Ends : Outcome → Prop) (Waits : Phase → List Task → Prop) (w : World) (i : Nat)
    (w' : World) : Prop where
  | wait {phase : Phase} {new : List Task} (hp : Waits phase new)
      (h : w'.Agrees ((w.setPhase i phase).spawn new)) : Turn Ends Waits w i w'
  | finish {o : Outcome} (ho : Ends o) (h : w'.Agrees (w.ended i o)) : Turn Ends Waits w i w'

section
variable {Ends : Outcome → Prop} {Waits : Phase → List Task → Prop} {u v w : World} {i : Nat}

theorem Turn.congr (h : v.Agrees w) (ht : Turn Ends Waits v i u) : Turn Ends Waits w i u := by
  cases ht with
  | wait hp h' => exact .wait hp (h'.trans ((h.setPhase i _).spawn _))
  | finish ho h' => exact .finish ho (h'.trans (h.ended i _))

theorem Turn.of_setPhase {phase : Phase} (ht : Turn Ends Waits (w.setPhase i phase) i u) :
    Turn Ends Waits w i u := by
  cases ht with
  | wait hp h => rw [setPhase_setPhase] at h; exact .wait hp h
  | finish ho h => rw [setPhase_ended] at h; exact .finish ho h

theorem Turn.of_finish {o : Outcome} (ho : Ends o) : Turn Ends Waits w i (w.finish i o) :=
  .finish ho (finish_agrees w i o)

theorem Turn.of_setPhase_self {phase : Phase} (hp : Waits phase []) :
    Turn Ends Waits w i (w.setPhase i phase) :=
  .wait hp ⟨rfl, rfl, rfl, (List.append_nil _).symm, fun _ => rfl⟩

end

/-! ## Calls of interfaces -/

/-- The phases of a task which waits for an interface. -/
def IsCalling (phase : Phase) (new : List Task) : Prop :=
  new = [] ∧ ∃ call, phase = .calling call

theorem endCall_turn (w : World) (i : Nat) (call : Call) {result : Except Failure (List Device)}
    (h : (Outcome.ofExcept result).IsPlain) :
    Turn Outcome.IsPlain IsCalling w i (w.endCall i call result) := by
  refine Turn.congr ?_ (Turn.of_finish h)
  exact (tell_agrees _ _).trans ((count_agrees _ _ _).trans (leaveDesk_agrees _ _ _))

theorem ask_turn (w : World) (i : Nat) (call : Call) (errand : Errand)
    (request : Except RequestFault Request) :
    Turn Outcome.IsPlain IsCalling w i (w.ask i call errand request) := by
  have hc := w.count_agrees call.metered [.request call.asked.endpoint]
  cases request with
  | error fault =>
    have hp : (Outcome.ofExcept (.error (.request call.asked.endpoint.host fault))).IsPlain :=
      trivial
    exact Turn.congr hc (endCall_turn _ i call hp)
  | ok request =>
    refine Turn.congr ((send_agrees _ i call.asked request).trans hc) ?_
    exact Turn.of_setPhase_self ⟨rfl, _, rfl⟩

theorem askWith_turn (w : World) (i : Nat) (call : Call) (api : PublicApi) (token : String) :
    Turn Outcome.IsPlain IsCalling w i (w.askWith i call api token) :=
  (ask_turn _ i call .devices _).congr (leaveDesk_agrees _ _ _)

theorem takeTurn_turn (w : World) (i : Nat) (call : Call) :
    w.takeTurn i call = w ∨ Turn Outcome.IsPlain IsCalling w i (w.takeTurn i call) := by
  unfold takeTurn
  split
  · exact Or.inl rfl
  · split
    · split
      · exact Or.inr (askWith_turn ..)
      · exact Or.inr (ask_turn ..)
      · exact Or.inl rfl
    · exact Or.inl rfl

theorem beginCall_turn (w : World) (i : Nat) (call : Call) :
    Turn Outcome.IsPlain IsCalling w i (w.beginCall i call) := by
  unfold beginCall
  split
  · exact ask_turn ..
  · next id api _ =>
    split
    · exact ask_turn ..
    · have hd := w.setDesk_agrees id ((w.desks id).join i)
      refine Turn.congr hd ?_
      rcases takeTurn_turn ((w.setDesk id ((w.desks id).join i)).setPhase i (.calling call)) i call
        with h | h
      · rw [h]; exact Turn.of_setPhase_self ⟨rfl, _, rfl⟩
      · exact h.of_setPhase

theorem handle_turn (w : World) (i : Nat) (call : Call) (r : Reply) (errand : Errand) :
    w.handle i call r errand = w ∨
      Turn Outcome.IsPlain IsCalling w i (w.handle i call r errand) := by
  cases errand with
  | devices => exact Or.inr (endCall_turn w i call (call.asked.devices_isPlain r))
  | grant =>
    simp only [handle]
    split
    · exact Or.inl rfl
    · next id api _ =>
      split
      · next f hf =>
        have hp : (Outcome.ofExcept (.error f)).IsPlain := Reply.decode_isPlain hf
        exact Or.inr (endCall_turn w i call hp)
      · next grant _ =>
        refine Or.inr (Turn.congr ?_ (askWith_turn _ i call api grant.token))
        exact (tell_agrees _ _).trans (setDesk_agrees _ _ _)

/-! ## Calls of sources -/

/-- The call of a source goes on as the call of another one behind caches whose readings are
    expired.  The inner ones of these caches come first. -/
inductive Calls (w : World) : Source → List Refresh → Source → Prop where
  | self (s : Source) : Calls w s [] s
  | through {id : Nat} {frequency : Duration} {metered : Bool} {inner s : Source}
      {previous : Option (List Device)} {rs : List Refresh}
      (hr : (w.caches id).read w.clock = .expired previous) (h : Calls w inner rs s) :
      Calls w (.cached id frequency metered inner) (rs ++ [⟨id, frequency, metered, previous⟩]) s

/-- The tasks which a source of several members begins for a task. -/
def memberTasks (scope : Scope) (i : Nat) (members : List Source) : List Task :=
  members.map fun m => { scope := scope.within i, parent := some i, phase := .ready m }

/-- How the call of a source can end at once. -/
def SourceEnds (w : World) : Source → Outcome → Prop
  | .scripted id, o => o = (w.scripts id).next.outcome
  | .interface .., o => o.IsPlain
  | .cached id _ _ _, o =>
    ∃ devices, (w.caches id).read w.clock = .fresh devices ∧ o = .found devices
  | .fanOut .., _ => False

/-- What the call of a source can wait for. -/
def SourceWaits (w : World) (scope : Scope) (i : Nat) : Source → Phase → List Task → Prop
  | .scripted id, phase, new =>
    new = [] ∧ ∃ pause, phase = .paused pause ∧ pause.outcome = (w.scripts id).next.outcome
  | .interface .., phase, new => IsCalling phase new
  | .cached .., _, _ => False
  | .fanOut metered members, phase, new =>
    phase = .gathering metered w.tasks.length members.length ∧ new = memberTasks scope i members

theorem cues_setAt {scripts : Nat → Script} {id : Nat} {s : Script}
    (h : s.cues = (scripts id).cues) (n : Nat) :
    (setAt scripts id s n).cues = (scripts n).cues := by
  unfold setAt
  split
  · next hn => rw [hn, h]
  · rfl

theorem perform_turn (w : World) (i id : Nat) (scope : Scope) :
    Turn (w.SourceEnds (.scripted id)) (w.SourceWaits scope i (.scripted id)) w i
      (w.perform i id) := by
  let v := { w with
    scripts := setAt w.scripts id { w.scripts id with calls := (w.scripts id).calls + 1 } }
  have hv : v.Agrees w := ⟨rfl, rfl, rfl, rfl, cues_setAt rfl⟩
  unfold perform
  simp only
  split
  · have ho : w.SourceEnds (.scripted id) (w.scripts id).next.outcome := rfl
    exact Turn.congr hv (Turn.of_finish ho)
  · next delay _ =>
    let pause : Pause := ⟨id, w.clock.alarm delay, (w.scripts id).next.isDeaf,
      (w.scripts id).next.outcome⟩
    have hp : w.SourceWaits scope i (.scripted id) (.paused pause) [] := ⟨rfl, pause, rfl, rfl⟩
    exact Turn.congr hv (Turn.of_setPhase_self hp)

theorem interface_turn (w : World) (i : Nat) (scope : Scope) (asked : Interface) (metered : Bool) :
    Turn Outcome.IsPlain IsCalling w i (w.enter i scope (.interface asked metered)) := by
  simp only [enter]
  split
  · have hp : (Outcome.ofExcept (.error .canceled)).IsPlain := trivial
    exact endCall_turn w i _ hp
  · exact beginCall_turn w i _

theorem fanOut_turn (w : World) (i : Nat) (scope : Scope) (metered : Bool)
    (members : List Source) :
    Turn (w.SourceEnds (.fanOut metered members)) (w.SourceWaits scope i (.fanOut metered members))
      w i (w.enter i scope (.fanOut metered members)) := by
  have h := w.count_agrees metered [.fanOut]
  refine .wait ⟨rfl, rfl⟩ ?_
  simp only [enter, h.tasks]
  exact (h.setPhase i _).spawn (memberTasks scope i members)

/-- Worlds in which a task calls sources alike. -/
structure Echoes (v w : World) : Prop where
  clock : v.clock = w.clock
  caches : v.caches = w.caches
  scripts : v.scripts = w.scripts
  length : v.tasks.length = w.tasks.length

section
variable {v w : World}

theorem Echoes.refl (w : World) : w.Echoes w := ⟨rfl, rfl, rfl, rfl⟩

theorem Echoes.calls (h : v.Echoes w) {s s' : Source} {rs : List Refresh}
    (hc : v.Calls s rs s') : w.Calls s rs s' := by
  induction hc with
  | self s => exact .self s
  | through hr _ ih => exact .through (by rw [← h.clock, ← h.caches]; exact hr) ih

theorem Echoes.sourceEnds (h : v.Echoes w) : v.SourceEnds = w.SourceEnds := by
  funext s o
  cases s <;> simp only [SourceEnds, h.clock, h.caches, h.scripts]

theorem Echoes.sourceWaits (h : v.Echoes w) : v.SourceWaits = w.SourceWaits := by
  funext scope i s phase new
  cases s <;> simp only [SourceWaits, h.scripts, h.length]

end

theorem pushRefresh_agrees (w : World) (i : Nat) (metered : Bool) (events : List Event)
    (r : Refresh) : ((w.count metered events).pushRefresh i r).Agrees (w.pushAll i [r]) := by
  have h := w.count_agrees metered events
  exact ⟨h.clock, h.caches, h.canceled, congrArg (List.modify · i _) h.tasks, h.cues⟩

theorem pushRefresh_echoes (w : World) (i : Nat) (metered : Bool) (events : List Event)
    (r : Refresh) : ((w.count metered events).pushRefresh i r).Echoes w := by
  have h := pushRefresh_agrees w i metered events r
  refine ⟨h.clock, h.caches, ?_, ?_⟩
  · unfold count
    split <;> rfl
  · rw [h.tasks]; exact List.length_modify ..

/-- The call of a source goes through caches to a source at which it ends or waits. -/
theorem enter_turn (i : Nat) (scope : Scope) : ∀ (s : Source) (w : World),
    ∃ rs base, w.Calls s rs base ∧
      Turn (w.SourceEnds base) (w.SourceWaits scope i base) (w.pushAll i rs) i (w.enter i scope s)
  | .scripted id, w => ⟨[], _, .self _, by rw [pushAll_nil]; exact perform_turn w i id scope⟩
  | .interface asked metered, w =>
    ⟨[], _, .self _, by rw [pushAll_nil]; exact interface_turn w i scope asked metered⟩
  | .fanOut metered members, w =>
    ⟨[], _, .self _, by rw [pushAll_nil]; exact fanOut_turn w i scope metered members⟩
  | .cached id frequency metered inner, w => by
    cases hr : (w.caches id).read w.clock with
    | fresh devices =>
      refine ⟨[], _, .self _, ?_⟩
      simp only [pushAll_nil, enter, hr]
      exact Turn.congr (w.count_agrees metered _) (Turn.of_finish ⟨devices, hr, rfl⟩)
    | expired previous =>
      let r : Refresh := ⟨id, frequency, metered, previous⟩
      let v := (w.count metered [.cacheRequest, .cacheRefresh]).pushRefresh i r
      have hv : v.Echoes w := pushRefresh_echoes w i metered _ r
      obtain ⟨rs, base, hc, ht⟩ := enter_turn i scope inner v
      refine ⟨rs ++ [r], base, .through hr (hv.calls hc), ?_⟩
      -- in `v` the source does what it does in `w`, and the cache waits for the task
      rw [hv.sourceEnds, hv.sourceWaits] at ht
      simp only [enter, hr]
      rw [← pushAll_pushAll]
      exact Turn.congr ((pushRefresh_agrees w i metered _ r).pushAll i rs) ht

theorem Echoes.trans {u v w : World} (h : u.Echoes v) (h' : v.Echoes w) : u.Echoes w :=
  ⟨h.clock.trans h'.clock, h.caches.trans h'.caches, h.scripts.trans h'.scripts,
    h.length.trans h'.length⟩

/-- Lets a task go through expired caches, of which the inner ones come first. -/
def passAll (w : World) (i : Nat) (rs : List Refresh) : World :=
  rs.foldr (fun r w => (w.count r.metered [.cacheRequest, .cacheRefresh]).pushRefresh i r) w

theorem passAll_echoes (w : World) (i : Nat) (rs : List Refresh) : (w.passAll i rs).Echoes w := by
  induction rs with
  | nil => exact .refl w
  | cons r rs ih => exact (pushRefresh_echoes _ i r.metered _ r).trans ih

theorem passAll_agrees (w : World) (i : Nat) (rs : List Refresh) :
    (w.passAll i rs).Agrees (w.pushAll i rs) := by
  induction rs with
  | nil => rw [pushAll_nil]; exact .refl w
  | cons r rs ih =>
    have hpush : (w.pushAll i rs).pushAll i [r] = w.pushAll i (r :: rs) := pushAll_pushAll w i rs [r]
    rw [← hpush]
    exact (pushRefresh_agrees _ i r.metered _ r).trans (ih.pushAll i [r])

/-- A call which goes on as the call of another source calls that source behind the caches. -/
theorem enter_passAll {w : World} {s s' : Source} {rs : List Refresh} (h : w.Calls s rs s')
    (i : Nat) (scope : Scope) : ∀ v : World, v.Echoes w →
      v.enter i scope s = (v.passAll i rs).enter i scope s' := by
  induction h with
  | self s => exact fun v _ => rfl
  | @through id frequency metered inner s' previous rs hr _ ih =>
    intro v hv
    let r : Refresh := ⟨id, frequency, metered, previous⟩
    let v' := (v.count metered [.cacheRequest, .cacheRefresh]).pushRefresh i r
    have hv' : v'.Echoes w := (pushRefresh_echoes v i metered _ r).trans hv
    have hpass : v.passAll i (rs ++ [r]) = v'.passAll i rs := List.foldr_append ..
    rw [hpass, ← ih v' hv']
    rw [← hv.clock, ← hv.caches] at hr
    simp only [enter, hr]
    rfl

/-- Such a call calls that source, and the caches wait for it. -/
theorem enter_eq {w : World} {s s' : Source} {rs : List Refresh} (h : w.Calls s rs s') (i : Nat)
    (scope : Scope) (v : World) (hv : v.Echoes w) : ∃ u : World, u.Echoes w ∧
      u.Agrees (v.pushAll i rs) ∧ v.enter i scope s = u.enter i scope s' :=
  ⟨v.passAll i rs, (v.passAll_echoes i rs).trans hv, v.passAll_agrees i rs,
    enter_passAll h i scope v hv⟩

/-- It does with the task what the call of the other source does. -/
theorem enter_calls {w : World} {s s' : Source} {rs : List Refresh} (h : w.Calls s rs s') (i : Nat)
    (scope : Scope) : ∃ rs' base, w.Calls s' rs' base ∧
      Turn (w.SourceEnds base) (w.SourceWaits scope i base) (w.pushAll i (rs' ++ rs)) i
        (w.enter i scope s) := by
  obtain ⟨u, hu, hagrees, henter⟩ := enter_eq h i scope w (.refl w)
  obtain ⟨rs', base, hc, ht⟩ := enter_turn i scope s' u
  rw [hu.sourceEnds, hu.sourceWaits] at ht
  refine ⟨rs', base, hu.calls hc, ?_⟩
  rw [henter, ← pushAll_pushAll]
  exact Turn.congr (hagrees.pushAll i rs') ht

/-! ## Tasks which go on -/

/-- How a task which is doing something can end. -/
def PhaseEnds (w : World) : Phase → Outcome → Prop
  | .paused pause, o => o = .failed .canceled ∨ o = pause.outcome
  | .calling _, o => o.IsPlain
  | .gathering _ first count, o => ∃ slots, w.outcomes? first count = some slots ∧ o = .merge slots
  | _, _ => False

/-- What a task which is doing something can wait for next. -/
def PhaseWaits : Phase → Phase → List Task → Prop
  | .calling _, phase, new => IsCalling phase new
  | _, _, _ => False

/-- A task which has called its source goes on with a turn, if at all. -/
theorem run_turn {w : World} {i : Nat} {t : Task} (ht : w.tasks[i]? = some t)
    (hready : ∀ s, t.phase ≠ .ready s) :
    w.run i = w ∨ Turn (w.PhaseEnds t.phase) (PhaseWaits t.phase) w i (w.run i) := by
  unfold run
  rw [ht]
  simp only
  cases hp : t.phase with
  | ready s => exact absurd hp (hready s)
  | paused pause =>
    simp only
    split
    · have ho : w.PhaseEnds (.paused pause) (.failed .canceled) := Or.inl rfl
      let script := w.scripts pause.script
      let canceled := { script with cancellations := script.cancellations + 1 }
      let v := { w with scripts := setAt w.scripts pause.script canceled }
      have hv : v.Agrees w := ⟨rfl, rfl, rfl, rfl, cues_setAt rfl⟩
      exact Or.inr (Turn.congr hv (Turn.of_finish ho))
    · split
      · exact Or.inr (Turn.of_finish (Or.inr rfl))
      · exact Or.inl rfl
  | calling call =>
    have hc : (Outcome.ofExcept (.error .canceled)).IsPlain := trivial
    simp only
    split
    · exact Or.inr (endCall_turn w i call hc)
    · split
      · exact takeTurn_turn w i call
      · next errand _ _ =>
        have hp : (Outcome.ofExcept (.error (call.asked.tooSlow errand))).IsPlain :=
          call.asked.tooSlow_isPlain errand
        split
        · exact Or.inr (endCall_turn w i call hp)
        · exact Or.inl rfl
  | gathering metered first count =>
    simp only
    split
    · next slots hs =>
      exact Or.inr (Turn.congr (w.count_agrees metered _) (Turn.of_finish ⟨slots, hs, rfl⟩))
    · exact Or.inl rfl
  | finished o => exact Or.inl rfl
  | dropped => exact Or.inl rfl

/-- A task which gets a reply goes on with a turn, if at all. -/
theorem reply_turn {w : World} {i : Nat} (r : Reply) :
    w.reply i r = w ∨ ∃ t call, w.tasks[i]? = some t ∧ t.phase = .calling call ∧
      Turn Outcome.IsPlain IsCalling w i (w.reply i r) := by
  unfold reply
  split
  · next scope parent rs call ht =>
    split
    · exact Or.inl rfl
    · next errand _ _ =>
      have hc : (Outcome.ofExcept (.error .canceled)).IsPlain := trivial
      split
      · exact Or.inr ⟨_, call, ht, rfl, endCall_turn w i call hc⟩
      · rcases handle_turn w i call r errand with h | h
        · exact Or.inl h
        · exact Or.inr ⟨_, call, ht, rfl, h⟩
  · exact Or.inl rfl

end World

end TailnetTargets
