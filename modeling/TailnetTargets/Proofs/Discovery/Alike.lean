/-
  Worlds which differ in nothing but secrets.

  * `Interface.Alike`, `Source.Alike`, `Task.Alike` and `Label.Alike` compare interfaces, sources,
    tasks and what happens in everything but the secrets of credentials;
  * `Sent.Alike` compares requests on their way in everything but what those secrets put into them;
  * `World.Alike` compares worlds in their tasks and requests in this way, and in everything else as
    they are.  Whatever happens keeps it so (`Alike.step`).
-/
import Mathlib.Data.List.Forall2
import TailnetTargets.Proofs.Client.Secrets
import TailnetTargets.Proofs.Discovery.Turn

namespace TailnetTargets

/-! ## Related lists -/

section
variable {α β γ : Type} {R : α → β → Prop} {l : List α} {m : List β}

theorem forall₂_getElem? (h : List.Forall₂ R l m) (i : Nat) :
    (l[i]? = none ∧ m[i]? = none) ∨ ∃ a b, l[i]? = some a ∧ m[i]? = some b ∧ R a b := by
  induction h generalizing i with
  | nil => exact Or.inl ⟨rfl, rfl⟩
  | cons hab _ ih =>
    cases i with
    | zero => exact Or.inr ⟨_, _, rfl, rfl, hab⟩
    | succ i => exact ih i

theorem forall₂_modify (h : List.Forall₂ R l m) (i : Nat) {f : α → α} {g : β → β}
    (hfg : ∀ a b, R a b → R (f a) (g b)) : List.Forall₂ R (l.modify i f) (m.modify i g) := by
  induction h generalizing i with
  | nil => simp
  | cons hab hrest ih =>
    cases i with
    | zero => exact .cons (hfg _ _ hab) hrest
    | succ i => exact .cons hab (ih i)

theorem mapM_eq_of_forall₂ (h : List.Forall₂ R l m) {f : α → Option γ} {g : β → Option γ}
    (hfg : ∀ a b, R a b → f a = g b) : l.mapM f = m.mapM g := by
  induction h with
  | nil => rfl
  | cons hab _ ih => simp [List.mapM_cons, hfg _ _ hab, ih]

end

/-! ## Sources -/

/-- Interfaces which differ in nothing but a secret. -/
inductive Interface.Alike : Interface → Interface → Prop where
  | localApi (socket : String) : Alike (.localApi socket) (.localApi socket)
  | publicApi (id : Nat) {api api' : PublicApi} (h : api.Alike api') :
    Alike (.publicApi id api) (.publicApi id api')

namespace Interface

variable {a a' : Interface}

theorem Alike.refl : ∀ a : Interface, a.Alike a
  | .localApi socket => .localApi socket
  | .publicApi id api => .publicApi id (.refl api)

theorem Alike.endpoint (h : a.Alike a') : a.endpoint = a'.endpoint := by
  cases h with
  | localApi socket => rfl
  | publicApi id h => exact h.endpoint

theorem Alike.devices (h : a.Alike a') (r : Reply) : a.devices r = a'.devices r := by
  cases h with
  | localApi socket => rfl
  | publicApi id h => exact h.devices r

theorem Alike.tooSlow (h : a.Alike a') (errand : Errand) : a.tooSlow errand = a'.tooSlow errand := by
  cases h with
  | localApi socket => rfl
  | publicApi id h =>
    cases errand with
    | grant => simp only [Interface.tooSlow, h.tooSlow, h.tokenUrl]
    | devices => simp only [Interface.tooSlow, h.tooSlow, h.devicesUrl]

theorem Alike.discoveries (h : a.Alike a') (devices : List Device) :
    a.discoveries devices = a'.discoveries devices := by
  cases h with
  | localApi socket => rfl
  | publicApi id h => simp only [Interface.discoveries, h.tailnet]

theorem Alike.lineOf (h : a.Alike a') (result : Except Failure (List Device)) :
    a.lineOf result = a'.lineOf result := by
  cases h with
  | localApi socket => rfl
  | publicApi id h => cases result <;> simp only [Interface.lineOf, h.tailnet]

end Interface

/-- Sources which differ in nothing but the secrets of their interfaces. -/
inductive Source.Alike : Source → Source → Prop where
  | scripted (id : Nat) : Alike (.scripted id) (.scripted id)
  | interface {asked asked' : Interface} (metered : Bool) (h : asked.Alike asked') :
    Alike (.interface asked metered) (.interface asked' metered)
  | cached (id : Nat) (frequency : Duration) (metered : Bool) {inner inner' : Source}
    (h : Alike inner inner') :
    Alike (.cached id frequency metered inner) (.cached id frequency metered inner')
  | fanOut (metered : Bool) {members members' : List Source}
    (h : List.Forall₂ Alike members members') :
    Alike (.fanOut metered members) (.fanOut metered members')

mutual

theorem Source.Alike.refl : ∀ s : Source, s.Alike s
  | .scripted id => .scripted id
  | .interface asked metered => .interface metered (.refl asked)
  | .cached id frequency metered inner => .cached id frequency metered (Source.Alike.refl inner)
  | .fanOut metered members => .fanOut metered (Source.Alike.forall₂_refl members)

theorem Source.Alike.forall₂_refl : ∀ members : List Source,
    List.Forall₂ Source.Alike members members
  | [] => .nil
  | s :: rest => .cons (Source.Alike.refl s) (Source.Alike.forall₂_refl rest)

end

/-! ## Tasks -/

/-- Calls of interfaces which differ in nothing but a secret. -/
structure Call.Alike (call call' : Call) : Prop where
  asked : call.asked.Alike call'.asked
  metered : call.metered = call'.metered
  began : call.began = call'.began
  stage : call.stage = call'.stage

/-- Phases which differ in nothing but secrets. -/
inductive Phase.Alike : Phase → Phase → Prop where
  | ready {s s' : Source} (h : s.Alike s') : Alike (.ready s) (.ready s')
  | paused (pause : Pause) : Alike (.paused pause) (.paused pause)
  | calling {call call' : Call} (h : call.Alike call') : Alike (.calling call) (.calling call')
  | gathering (metered : Bool) (first count : Nat) :
    Alike (.gathering metered first count) (.gathering metered first count)
  | finished (o : Outcome) : Alike (.finished o) (.finished o)
  | dropped : Alike .dropped .dropped

theorem Phase.Alike.refl : ∀ p : Phase, p.Alike p
  | .ready s => .ready (.refl s)
  | .paused pause => .paused pause
  | .calling _ => .calling ⟨.refl _, rfl, rfl, rfl⟩
  | .gathering metered first count => .gathering metered first count
  | .finished o => .finished o
  | .dropped => .dropped

/-- Tasks which differ in nothing but secrets. -/
structure Task.Alike (t t' : Task) : Prop where
  scope : t.scope = t'.scope
  parent : t.parent = t'.parent
  refreshes : t.refreshes = t'.refreshes
  phase : t.phase.Alike t'.phase

theorem Task.Alike.refl (t : Task) : t.Alike t := ⟨rfl, rfl, rfl, .refl _⟩

theorem Task.Alike.outcome? {t t' : Task} (h : t.Alike t') : t.outcome? = t'.outcome? := by
  obtain ⟨_, _, _, phase⟩ := t
  obtain ⟨_, _, _, phase'⟩ := t'
  cases h.phase <;> rfl

/-- Requests on their way which differ in nothing but what secrets put into them. -/
inductive Sent.Alike : Sent → Sent → Prop where
  | localApi (task : Nat) (socket : String) (r : Request) :
    Alike ⟨task, .localApi socket, r⟩ ⟨task, .localApi socket, r⟩
  | publicApi (task id : Nat) {api api' : PublicApi} {r r' : Request} (h : api.Alike api')
    (hr : Request.Alike api.credentials api'.credentials r r') :
    Alike ⟨task, .publicApi id api, r⟩ ⟨task, .publicApi id api', r'⟩

theorem Sent.Alike.refl : ∀ s : Sent, s.Alike s
  | ⟨task, .localApi socket, r⟩ => .localApi task socket r
  | ⟨task, .publicApi id api, r⟩ => .publicApi task id (.refl api) (.same r)

/-- The same request goes to interfaces which are alike. -/
theorem Sent.Alike.of_asked {a a' : Interface} (h : a.Alike a') (task : Nat) (r : Request) :
    Sent.Alike ⟨task, a, r⟩ ⟨task, a', r⟩ := by
  cases h with
  | localApi socket => exact .localApi task socket r
  | publicApi id h => exact .publicApi task id h (.same r)

/-! ## Worlds -/

namespace World

/-- A world without its tasks and requests. -/
def rest (w : World) : World := { w with tasks := [], sent := [] }

/-- Worlds which differ in nothing but secrets. -/
structure Alike (w w' : World) : Prop where
  rest : w.rest = w'.rest
  tasks : List.Forall₂ Task.Alike w.tasks w'.tasks
  sent : List.Forall₂ Sent.Alike w.sent w'.sent

variable {w w' : World}

theorem Alike.refl (w : World) : w.Alike w :=
  ⟨rfl, List.forall₂_same.2 fun t _ => .refl t, List.forall₂_same.2 fun s _ => .refl s⟩

theorem Alike.clock (h : w.Alike w') : w.clock = w'.clock := congrArg (fun v => v.clock) h.rest

theorem Alike.tokenClock (h : w.Alike w') : w.tokenClock = w'.tokenClock :=
  congrArg (fun v => v.tokenClock) h.rest

theorem Alike.registry (h : w.Alike w') : w.registry = w'.registry :=
  congrArg (fun v => v.registry) h.rest

theorem Alike.caches (h : w.Alike w') : w.caches = w'.caches := congrArg (fun v => v.caches) h.rest

theorem Alike.scripts (h : w.Alike w') : w.scripts = w'.scripts :=
  congrArg (fun v => v.scripts) h.rest

theorem Alike.desks (h : w.Alike w') : w.desks = w'.desks := congrArg (fun v => v.desks) h.rest

theorem Alike.journal (h : w.Alike w') : w.journal = w'.journal :=
  congrArg (fun v => v.journal) h.rest

theorem Alike.isCanceled (h : w.Alike w') (s : Scope) : w.isCanceled s = w'.isCanceled s :=
  congrArg (fun v => v.isCanceled s) h.rest

theorem Alike.length (h : w.Alike w') : w.tasks.length = w'.tasks.length := h.tasks.length_eq

theorem Alike.task_cases (h : w.Alike w') (i : Nat) :
    (w.tasks[i]? = none ∧ w'.tasks[i]? = none) ∨
      ∃ t t', w.tasks[i]? = some t ∧ w'.tasks[i]? = some t' ∧ t.Alike t' :=
  forall₂_getElem? h.tasks i

theorem Alike.outcome? (h : w.Alike w') (i : Nat) : w.outcome? i = w'.outcome? i := by
  unfold World.outcome?
  rcases h.task_cases i with ⟨hw, hw'⟩ | ⟨t, t', hw, hw', ht⟩
  · rw [hw, hw']
  · rw [hw, hw']
    exact ht.outcome?

theorem Alike.outcomes? (h : w.Alike w') (first count : Nat) :
    w.outcomes? first count = w'.outcomes? first count :=
  mapM_eq_of_forall₂ (List.forall₂_take _ (List.forall₂_drop _ h.tasks)) fun _ _ ht => ht.outcome?

/-! ## Parts of worlds -/

theorem Alike.count (h : w.Alike w') (metered : Bool) (events : List Event) :
    (w.count metered events).Alike (w'.count metered events) := by
  unfold World.count
  split
  · refine ⟨?_, h.tasks, h.sent⟩
    exact congrArg (fun v => { v with registry := events.foldl Registry.record v.registry }) h.rest
  · exact h

theorem Alike.tell (h : w.Alike w') (line : LogLine) : (w.tell line).Alike (w'.tell line) :=
  ⟨congrArg (fun v => v.tell line) h.rest, h.tasks, h.sent⟩

theorem Alike.setDesk (h : w.Alike w') (id : Nat) (desk : TokenDesk) :
    (w.setDesk id desk).Alike (w'.setDesk id desk) :=
  ⟨congrArg (fun v => v.setDesk id desk) h.rest, h.tasks, h.sent⟩

theorem Alike.setScripts (h : w.Alike w') (scripts : Nat → Script) :
    Alike { w with scripts } { w' with scripts } :=
  ⟨congrArg (fun v => { v with scripts }) h.rest, h.tasks, h.sent⟩

theorem Alike.cancel (h : w.Alike w') (s : Scope) : (w.cancel s).Alike (w'.cancel s) :=
  ⟨congrArg (fun v => v.cancel s) h.rest, h.tasks, h.sent⟩

theorem Alike.closesOf (h : w.Alike w') (i : Nat) : w.closesOf i = w'.closesOf i := by
  unfold World.closesOf
  rcases h.task_cases i with ⟨hw, hw'⟩ | ⟨t, t', hw, hw', ht⟩
  · rw [hw, hw']
  · rw [hw, hw', Option.map_some, Option.map_some, Task.closes, Task.closes, Task.isServed,
      Task.isServed, ht.scope, ht.parent]

theorem Alike.close (h : w.Alike w') (i : Nat) : (w.close i).Alike (w'.close i) := by
  refine ⟨?_, h.tasks, h.sent⟩
  rw [World.close, World.close, h.closesOf]
  exact congrArg (fun v => { v with canceled := w'.closesOf i ++ v.canceled }) h.rest

theorem Alike.leaveDesk (h : w.Alike w') (i : Nat) {a a' : Interface} (ha : a.Alike a') :
    (w.leaveDesk i a).Alike (w'.leaveDesk i a') := by
  cases ha with
  | localApi socket => exact h
  | publicApi id _ =>
    simp only [World.leaveDesk, h.desks]
    exact h.setDesk id _

theorem Alike.send (h : w.Alike w') {i : Nat} {a a' : Interface} {r r' : Request}
    (hr : Sent.Alike ⟨i, a, r⟩ ⟨i, a', r'⟩) : (w.send i a r).Alike (w'.send i a' r') :=
  ⟨h.rest, h.tasks, List.rel_append h.sent (.cons hr .nil)⟩

theorem Alike.setPhase (h : w.Alike w') (i : Nat) {phase phase' : Phase} (hp : phase.Alike phase') :
    (w.setPhase i phase).Alike (w'.setPhase i phase') :=
  ⟨h.rest, forall₂_modify h.tasks i fun _ _ ht => ⟨ht.scope, ht.parent, ht.refreshes, hp⟩, h.sent⟩

theorem Alike.pushRefresh (h : w.Alike w') (i : Nat) (r : Refresh) :
    (w.pushRefresh i r).Alike (w'.pushRefresh i r) :=
  ⟨h.rest, forall₂_modify h.tasks i fun _ _ ht =>
    ⟨ht.scope, ht.parent, congrArg (r :: ·) ht.refreshes, ht.phase⟩, h.sent⟩

theorem Alike.spawn (h : w.Alike w') {new new' : List Task}
    (hnew : List.Forall₂ Task.Alike new new') : (w.spawn new).Alike (w'.spawn new') :=
  ⟨h.rest, List.rel_append h.tasks hnew, h.sent⟩

/-! ## The end of a task -/

theorem Alike.settle (h : w.Alike w') (rs : List Refresh) (o : Outcome) :
    (w.settle rs o).1.Alike (w'.settle rs o).1 := by
  induction rs generalizing w w' o with
  | nil => exact h
  | cons r rs ih =>
    have hone : (w.settleOne r o).1.Alike (w'.settleOne r o).1 := by
      cases o with
      | found devices =>
        refine ⟨?_, h.tasks, h.sent⟩
        exact congrArg (fun v => (v.settleOne r (.found devices)).1) h.rest
      | failed failure => exact h.count _ _
      | panicked text => exact h
    have heq : (w.settleOne r o).2 = (w'.settleOne r o).2 := by
      rw [settleOne_snd, settleOne_snd]
    simp only [World.settle, heq]
    exact ih hone _

theorem Alike.refreshesOf (h : w.Alike w') (i : Nat) : w.refreshesOf i = w'.refreshesOf i := by
  unfold World.refreshesOf
  rcases h.task_cases i with ⟨hw, hw'⟩ | ⟨t, t', hw, hw', ht⟩
  · rw [hw, hw']
  · rw [hw, hw']
    exact ht.refreshes

theorem Alike.finish (h : w.Alike w') (i : Nat) (o : Outcome) :
    (w.finish i o).Alike (w'.finish i o) := by
  change World.Alike
    (((w.settle (w.refreshesOf i) o).1.setPhase i
      (.finished (w.settle (w.refreshesOf i) o).2)).close i)
    (((w'.settle (w'.refreshesOf i) o).1.setPhase i
      (.finished (w'.settle (w'.refreshesOf i) o).2)).close i)
  rw [h.refreshesOf, settle_snd, settle_snd]
  exact ((h.settle _ o).setPhase i (.finished _)).close i

/-! ## Calls of interfaces -/

variable {call call' : Call}

theorem Alike.callEvents (h : w.Alike w') (hc : call.Alike call')
    (result : Except Failure (List Device)) :
    w.callEvents call result = w'.callEvents call' result := by
  simp only [World.callEvents, h.tokenClock, hc.asked.endpoint, hc.began, hc.asked.discoveries]

theorem Alike.endCall (h : w.Alike w') (i : Nat) (hc : call.Alike call')
    (result : Except Failure (List Device)) :
    (w.endCall i call result).Alike (w'.endCall i call' result) := by
  simp only [World.endCall, h.callEvents hc, hc.metered, hc.asked.lineOf]
  exact (((h.leaveDesk i hc.asked).count _ _).tell _).finish i _

theorem Alike.ask (h : w.Alike w') (i : Nat) (hc : call.Alike call') (errand : Errand)
    {request request' : Except RequestFault Request}
    (hr : Request.Both (fun r r' => Sent.Alike ⟨i, call.asked, r⟩ ⟨i, call'.asked, r'⟩)
      request request') :
    (w.ask i call errand request).Alike (w'.ask i call' errand request') := by
  have hcount := h.count call'.metered [.request call'.asked.endpoint]
  simp only [World.ask, hc.metered, hc.asked.endpoint]
  cases hr with
  | ok hr =>
    simp only [hcount.clock]
    exact (hcount.send hr).setPhase i (.calling ⟨hc.asked, rfl, hc.began, rfl⟩)
  | error fault => exact hcount.endCall i hc _

theorem Alike.askWith (h : w.Alike w') (i : Nat) (hc : call.Alike call') {api api' : PublicApi}
    (ha : api.Alike api') (token : String) :
    (w.askWith i call api token).Alike (w'.askWith i call' api' token) := by
  simp only [World.askWith, ha.devicesRequest]
  exact (h.leaveDesk i hc.asked).ask i hc .devices (.refl (Sent.Alike.of_asked hc.asked i) _)

theorem Alike.takeTurn (h : w.Alike w') (i : Nat) (hc : call.Alike call') :
    (w.takeTurn i call).Alike (w'.takeTurn i call') := by
  obtain ⟨asked, metered, began, stage⟩ := call
  obtain ⟨asked', metered', began', stage'⟩ := call'
  cases hc.asked with
  | localApi socket => exact h
  | @publicApi id api api' ha =>
    simp only [World.takeTurn, h.desks, h.tokenClock]
    split
    · cases (w'.desks id).usable? w'.tokenClock with
      | some token => exact h.askWith i hc ha token
      | none =>
        -- nothing is kept, so a client asks for a token
        obtain ⟨base, tailnet, credentials⟩ := api
        obtain ⟨base', tailnet', credentials'⟩ := api'
        cases ha.credentials with
        | token => exact h
        | client client secret secret' =>
          refine h.ask i hc .grant ?_
          exact (ha.tokenRequest_client rfl rfl).imp fun _ _ hr => .publicApi i id ha hr
    · exact h

theorem Alike.beginCall (h : w.Alike w') (i : Nat) (hc : call.Alike call') :
    (w.beginCall i call).Alike (w'.beginCall i call') := by
  obtain ⟨asked, metered, began, stage⟩ := call
  obtain ⟨asked', metered', began', stage'⟩ := call'
  cases hc.asked with
  | localApi socket => exact h.ask i hc .devices (.ok (.localApi i socket _))
  | @publicApi id api api' ha =>
    have hdesk := (h.setDesk id ((w'.desks id).join i)).setPhase i (.calling hc)
    obtain ⟨base, tailnet, credentials⟩ := api
    obtain ⟨base', tailnet', credentials'⟩ := api'
    cases ha.credentials with
    | token token token' =>
      refine h.ask i hc .devices ?_
      exact (ha.devicesRequest_token rfl rfl).imp fun _ _ hr => .publicApi i id ha hr
    | client client secret secret' =>
      simp only [World.beginCall, h.desks]
      exact hdesk.takeTurn i hc

theorem Alike.handle (h : w.Alike w') (i : Nat) (hc : call.Alike call') (r : Reply)
    (errand : Errand) : (w.handle i call r errand).Alike (w'.handle i call' r errand) := by
  cases errand with
  | devices =>
    simp only [World.handle, hc.asked.devices]
    exact h.endCall i hc _
  | grant =>
    obtain ⟨asked, metered, began, stage⟩ := call
    obtain ⟨asked', metered', began', stage'⟩ := call'
    cases hc.asked with
    | localApi socket => exact h
    | @publicApi id api api' ha =>
      simp only [World.handle, ha.grant, h.desks, h.tokenClock]
      cases api'.grant r with
      | error failure => exact h.endCall i hc _
      | ok grant =>
        have hdesk := h.setDesk id ((w'.desks id).keep w'.tokenClock grant)
        simp only [hdesk.tokenClock]
        exact (hdesk.tell _).askWith i hc ha grant.token

/-! ## Tasks -/

theorem Alike.perform (h : w.Alike w') (i id : Nat) : (w.perform i id).Alike (w'.perform i id) := by
  have hcalled := h.setScripts
    (setAt w'.scripts id { w'.scripts id with calls := (w'.scripts id).calls + 1 })
  unfold World.perform
  simp only [h.scripts]
  split
  · exact hcalled.finish i _
  · next delay _ =>
    have halarm : w.clock.alarm delay = w'.clock.alarm delay := by rw [h.clock]
    simp only [halarm]
    exact hcalled.setPhase i (.paused _)

theorem Alike.interrupt (h : w.Alike w') (i id : Nat) :
    (w.interrupt i id).Alike (w'.interrupt i id) := by
  unfold World.interrupt
  simp only [h.scripts]
  exact (h.setScripts _).finish i _

theorem alike_memberTasks (scope : Scope) (i : Nat) {members members' : List Source}
    (h : List.Forall₂ Source.Alike members members') :
    List.Forall₂ Task.Alike (memberTasks scope i members) (memberTasks scope i members') :=
  List.rel_map (fun _ _ hs => ⟨rfl, rfl, rfl, .ready hs⟩) h

theorem Alike.enter (i : Nat) (scope : Scope) : ∀ (s : Source) {s' : Source} {w w' : World},
    s.Alike s' → w.Alike w' → (w.enter i scope s).Alike (w'.enter i scope s')
  | .scripted id, _, _, _, hs, h => by
    cases hs
    exact h.perform i id
  | .interface asked metered, _, _, w', hs, h => by
    cases hs with
    | interface _ ha =>
      have hc : Call.Alike ⟨_, metered, w'.tokenClock, .turn⟩ ⟨_, metered, w'.tokenClock, .turn⟩ :=
        ⟨ha, rfl, rfl, rfl⟩
      simp only [World.enter, h.isCanceled, h.tokenClock]
      split
      · exact h.endCall i hc _
      · exact h.beginCall i hc
  | .cached id frequency metered inner, _, _, _, hs, h => by
    cases hs with
    | cached _ _ _ hinner =>
      simp only [World.enter, h.caches, h.clock]
      split
      · exact (h.count _ _).finish i _
      · exact Alike.enter i scope inner hinner ((h.count _ _).pushRefresh i _)
  | .fanOut metered members, _, _, _, hs, h => by
    cases hs with
    | fanOut _ hmembers =>
      have hcount := h.count metered [.fanOut]
      simp only [World.enter, hcount.length, hmembers.length_eq]
      exact (hcount.setPhase i (.gathering ..)).spawn (alike_memberTasks scope i hmembers)

theorem Alike.run (h : w.Alike w') (i : Nat) : (w.run i).Alike (w'.run i) := by
  unfold World.run
  rcases h.task_cases i with ⟨hw, hw'⟩ | ⟨t, t', hw, hw', ht⟩
  · rw [hw, hw']
    exact h
  · obtain ⟨scope, parent, refreshes, phase⟩ := t
    obtain ⟨scope', parent', refreshes', phase'⟩ := t'
    obtain ⟨rfl, -, -, hp⟩ := ht
    simp only [hw, hw']
    cases hp with
    | ready hs => exact Alike.enter i scope _ hs h
    | paused pause =>
      simp only [h.isCanceled, h.clock]
      split
      · exact h.interrupt i _
      · split
        · exact h.finish i _
        · exact h
    | calling hc =>
      simp only [h.isCanceled, h.clock, hc.stage]
      split
      · exact h.endCall i hc _
      · split
        · exact h.takeTurn i hc
        · split
          · rw [hc.asked.tooSlow]
            exact h.endCall i hc _
          · exact h
    | gathering metered first count =>
      simp only [h.outcomes?]
      split
      · exact (h.count _ _).finish i _
      · exact h
    | finished o => exact h
    | dropped => exact h

theorem Alike.reply (h : w.Alike w') (i : Nat) (r : Reply) :
    (w.reply i r).Alike (w'.reply i r) := by
  unfold World.reply
  rcases h.task_cases i with ⟨hw, hw'⟩ | ⟨t, t', hw, hw', ht⟩
  · rw [hw, hw']
    exact h
  · obtain ⟨scope, parent, refreshes, phase⟩ := t
    obtain ⟨scope', parent', refreshes', phase'⟩ := t'
    obtain ⟨rfl, -, -, hp⟩ := ht
    simp only [hw, hw']
    cases hp with
    | calling hc =>
      simp only [h.isCanceled, hc.stage]
      split
      · exact h
      · split
        · exact h.endCall i hc _
        · exact h.handle i hc r _
    | _ => exact h

/-! ## Calls from outside -/

theorem Alike.begin (h : w.Alike w') (scope : Scope) {s s' : Source} (hs : s.Alike s') :
    (w.begin scope s).Alike (w'.begin scope s') :=
  h.spawn (.cons ⟨rfl, rfl, rfl, .ready hs⟩ .nil)

theorem Alike.root?_cases (h : w.Alike w') (i : Nat) :
    (w.root? i = none ∧ w'.root? i = none) ∨
      ∃ t t', w.root? i = some t ∧ w'.root? i = some t' ∧ t.Alike t' := by
  unfold World.root?
  rcases h.task_cases i with ⟨hw, hw'⟩ | ⟨t, t', hw, hw', ht⟩
  · exact Or.inl ⟨by rw [hw]; rfl, by rw [hw']; rfl⟩
  · have hparent := ht.parent
    rw [hw, hw', Option.filter_some, Option.filter_some, hparent]
    split
    · exact Or.inr ⟨t, t', rfl, rfl, ht⟩
    · exact Or.inl ⟨rfl, rfl⟩

theorem Alike.cancelTask (h : w.Alike w') (i : Nat) : (w.cancelTask i).Alike (w'.cancelTask i) := by
  unfold World.cancelTask
  rcases h.root?_cases i with ⟨hw, hw'⟩ | ⟨t, t', hw, hw', ht⟩
  · rw [hw, hw']
    exact h
  · simp only [hw, hw', ht.scope]
    exact h.cancel _

theorem Alike.release (h : w.Alike w') (i : Nat) {t t' : Task} (ht : t.Alike t') :
    (w.release i t).Alike (w'.release i t') := by
  obtain ⟨scope, parent, refreshes, phase⟩ := t
  obtain ⟨scope', parent', refreshes', phase'⟩ := t'
  obtain ⟨rfl, -, -, hp⟩ := ht
  cases hp with
  | ready hs => exact h.setPhase i .dropped
  | paused pause => exact h.setPhase i .dropped
  | calling hc => exact (h.leaveDesk i hc.asked).setPhase i .dropped
  | gathering metered first count => exact h.setPhase i .dropped
  | finished o => exact h
  | dropped => exact h

theorem Alike.drop (h : w.Alike w') (i : Nat) : (w.drop i).Alike (w'.drop i) := by
  unfold World.drop
  rcases h.root?_cases i with ⟨hw, hw'⟩ | ⟨t, t', hw, hw', ht⟩
  · rw [hw, hw']
    exact h
  · simp only [hw, hw']
    exact (h.release i ht).close i

end World

/-! ## Steps -/

/-- Happenings which differ in nothing but the secrets of the sources that are called. -/
inductive Label.Alike : Label → Label → Prop where
  | call {s s' : Source} (h : s.Alike s') : Alike (.call s) (.call s')
  | serve {s s' : Source} (h : s.Alike s') : Alike (.serve s) (.serve s')
  | run (task : Nat) : Alike (.run task) (.run task)
  | reply (task : Nat) (r : Reply) : Alike (.reply task r) (.reply task r)
  | cancel (task : Nat) : Alike (.cancel task) (.cancel task)
  | drop (task : Nat) : Alike (.drop task) (.drop task)
  | shutDown : Alike .shutDown .shutDown
  | advance (d : Duration) : Alike (.advance d) (.advance d)
  | age (d : Duration) : Alike (.age d) (.age d)

theorem Label.Alike.refl : ∀ l : Label, l.Alike l
  | .call s => .call (.refl s)
  | .serve s => .serve (.refl s)
  | .run i => .run i
  | .reply i r => .reply i r
  | .cancel i => .cancel i
  | .drop i => .drop i
  | .shutDown => .shutDown
  | .advance d => .advance d
  | .age d => .age d

/-- **A step keeps worlds alike** which differ in nothing but secrets. -/
theorem World.Alike.step {w w' : World} (h : w.Alike w') {l l' : Label} (hl : l.Alike l') :
    (w.step l).Alike (w'.step l') := by
  cases hl with
  | call hs =>
    simp only [World.step, h.length]
    exact h.begin _ hs
  | serve hs =>
    simp only [World.step, h.length]
    exact h.begin _ hs
  | run i => exact h.run i
  | reply i r => exact h.reply i r
  | cancel i => exact h.cancelTask i
  | drop i => exact h.drop i
  | shutDown => exact h.cancel _
  | advance d => exact ⟨congrArg (fun v => v.step (.advance d)) h.rest, h.tasks, h.sent⟩
  | age d => exact ⟨congrArg (fun v => v.step (.age d)) h.rest, h.tasks, h.sent⟩

end TailnetTargets
