/-
  What tasks add to the counters.

  * `World.Adds`: what is added to the meters of a world;
  * `World.Serves`: the call of an interface behind a counted cache goes on, or it ends.  Then its
    latency is measured, and it is counted if earlier devices stand in (`endCall_serves`,
    `takeTurn_serves`, `beginCall_serves`, `handle_serves`);
  * `Task.IsPart`: the tasks of a joint source of such caches;
  * `Task.bill`: what such a task has added to the meters;
  * `Accounts`: a step adds to the meters what it adds to the bill of its task (`step_accounts`).
-/
import TailnetTargets.Proofs.Discovery.Life
import TailnetTargets.Proofs.Metrics.Meter

namespace TailnetTargets

/-! ## Outcomes -/

namespace Outcome

/-- Whether earlier devices stand in for what failed. -/
def isStale : Outcome → Bool
  | failed (.stale ..) => true
  | _ => false

/-- How many sources of a joint source failed. -/
def causes : Outcome → Nat
  | failed (.aggregate _ causes) => causes.length
  | _ => 0

theorem causes_merge (slots : List Outcome) : (merge slots).causes = (failures slots).length := by
  unfold merge
  split
  · next h => rw [h]; rfl
  · rfl

theorem isStale_merge (slots : List Outcome) : (merge slots).isStale = false := by
  unfold merge
  split <;> rfl

theorem IsPlain.isStale_covered {o : Outcome} (h : o.IsPlain) (previous : Option (List Device)) :
    (o.covered previous).isStale = (previous.isSome && o matches .failed _) := by
  cases o with
  | failed failure =>
    cases previous with
    | some devices => rfl
    | none => cases failure <;> first | rfl | cases h
  | _ => cases previous <;> rfl

theorem IsPlain.causes_covered {o : Outcome} (h : o.IsPlain) (previous : Option (List Device)) :
    (o.covered previous).causes = 0 := by
  cases o with
  | failed failure =>
    cases previous with
    | some devices => rfl
    | none => cases failure <;> first | rfl | cases h
  | _ => rfl

end Outcome

namespace World

/-! ## What is added -/

/-- What is added to the meters of a world. -/
def Adds (w w' : World) (amount : Meter → Nat) : Prop := w.registry.Adds w'.registry amount

section
variable {w v u : World} {amount amount' : Meter → Nat}

theorem Adds.refl (w : World) : w.Adds w 0 := Registry.Adds.refl _

theorem Adds.of_registry (h : v.registry = w.registry) : w.Adds v 0 := by
  rw [Adds, h]
  exact .refl _

theorem Adds.trans (h : w.Adds v amount) (h' : v.Adds u amount') : w.Adds u (amount + amount') :=
  Registry.Adds.trans h h'

theorem Adds.then (h : w.Adds v amount) (h' : u.registry = v.registry) : w.Adds u amount := by
  rw [Adds, h']
  exact h

theorem count_adds (w : World) (events : List Event) :
    w.Adds (w.count true events) (events.map Event.amount).sum :=
  w.registry.foldl_record_adds events

end

section
variable (w : World) (i : Nat)

/-- What is counted when a call ends: how long it took, and nothing of caches. -/
theorem callEvents_amount (call : Call) (result : Except Failure (List Device)) :
    ((w.callEvents call result).map Event.amount).sum = Meter.one .latencies := by
  cases result with
  | ok devices =>
    cases h : call.asked <;>
      simp [callEvents, Interface.discoveries, h, Event.amount, Event.meter?]
  | error failure =>
    cases failure <;> simp [callEvents, Failure.accounting, Event.amount, Event.meter?]

theorem finish_adds_nil {o : Outcome} (h : w.refreshesOf i = []) : w.Adds (w.finish i o) 0 := by
  refine .of_registry ?_
  change (w.settle (w.refreshesOf i) o).1.registry = _
  rw [h]
  rfl

/-- What is counted when a source behind a counted cache ends. -/
theorem finish_adds {o : Outcome} {r : Refresh} (h : w.refreshesOf i = [r]) (hr : r.metered)
    (ho : o.IsPlain) : w.Adds (w.finish i o)
      (if (o.covered r.previous).isStale then Meter.one .cacheStale else 0) := by
  have hsettle : (w.finish i o).registry = (w.settleOne r o).1.registry := by
    change (w.settle (w.refreshesOf i) o).1.registry = _
    rw [h]
    rfl
  refine Adds.then ?_ hsettle
  rw [ho.isStale_covered]
  cases o with
  | failed failure =>
    rw [settleOne, hr]
    cases r.previous with
    | some devices => simpa [Event.amount, Event.meter?] using w.count_adds [.cacheStale]
    | none => exact .refl w
  | found devices => simp only [Bool.and_false]; exact .of_registry rfl
  | panicked text => simp only [Bool.and_false]; exact .refl w

end

/-! ## Calls of interfaces -/

/-- What is added when a call ends behind a cache whose caller found some devices. -/
def endAmount (r : Refresh) (o : Outcome) : Meter → Nat :=
  Meter.one .latencies + if (o.covered r.previous).isStale then Meter.one .cacheStale else 0

/-- The call of an interface behind a counted cache goes on, or it ends. -/
inductive Serves (r : Refresh) (w : World) (i : Nat) (w' : World) : Prop where
  | waits {call : Call} (hcall : call.metered)
      (htasks : w'.tasks = (w.setPhase i (.calling call)).tasks) (hadds : w.Adds w' 0)
  | ends {o : Outcome} (ho : o.IsPlain)
      (htasks : w'.tasks = (w.setPhase i (.finished (o.covered r.previous))).tasks)
      (hadds : w.Adds w' (endAmount r o))

section
variable {w v w' : World} {i : Nat} {r : Refresh} {call : Call}

theorem Serves.congr (htasks : v.tasks = w.tasks) (hregistry : v.registry = w.registry)
    (h : Serves r v i w') : Serves r w i w' := by
  have hadds : ∀ {amount}, v.Adds w' amount → w.Adds w' amount := fun h => by
    rw [Adds, ← hregistry]
    exact h
  cases h with
  | waits hcall htasks' h => exact .waits hcall (by rw [htasks', setPhase, htasks]; rfl) (hadds h)
  | ends ho htasks' h => exact .ends ho (by rw [htasks', setPhase, htasks]; rfl) (hadds h)

theorem Serves.of_setPhase {phase : Phase} (h : Serves r (w.setPhase i phase) i w') :
    Serves r w i w' := by
  cases h with
  | waits hcall htasks h => exact .waits hcall (by rw [htasks, setPhase_setPhase]) h
  | ends ho htasks h => exact .ends ho (by rw [htasks, setPhase_setPhase]) h

theorem endCall_serves (hi : w.refreshesOf i = [r]) (hr : r.metered) (hcall : call.metered)
    {result : Except Failure (List Device)} (ho : (Outcome.ofExcept result).IsPlain) :
    Serves r w i (w.endCall i call result) := by
  refine .ends ho ?_ ?_
  · rw [(endCall_agrees w i call result).tasks, ended, hi]
    rfl
  · let v := w.leaveDesk i call.asked
    let v' := (v.count true (w.callEvents call result)).tell (call.asked.lineOf result)
    have hagrees : v'.Agrees w := (tell_agrees _ _).trans
      ((count_agrees _ _ _).trans (w.leaveDesk_agrees i call.asked))
    have hrefreshes : v'.refreshesOf i = [r] := by rw [refreshesOf, hagrees.tasks]; exact hi
    have hcount : w.Adds v' (Meter.one .latencies) := by
      have h := v.count_adds (w.callEvents call result)
      rw [callEvents_amount, Adds, leaveDesk_registry] at h
      exact h
    have hend : w.endCall i call result = v'.finish i (.ofExcept result) := by
      rw [endCall, hcall]
    rw [hend]
    exact hcount.trans (finish_adds v' i hrefreshes hr ho)

theorem canceled_serves (hi : w.refreshesOf i = [r]) (hr : r.metered) (hcall : call.metered) :
    Serves r w i (w.endCall i call (.error .canceled)) :=
  endCall_serves hi hr hcall trivial

theorem ask_serves (hi : w.refreshesOf i = [r]) (hr : r.metered) (hcall : call.metered)
    (errand : Errand) (request : Except RequestFault Request) :
    Serves r w i (w.ask i call errand request) := by
  let v := w.count call.metered [.request call.asked.endpoint]
  have hagrees : v.Agrees w := count_agrees _ _ _
  have hadds : w.Adds v 0 := by
    have h := w.count_adds [.request call.asked.endpoint]
    rw [← hcall] at h
    simpa [Event.amount, Event.meter?] using h
  have hrefreshes : v.refreshesOf i = [r] := by rw [refreshesOf, hagrees.tasks]; exact hi
  cases request with
  | error fault =>
    have ho : (Outcome.ofExcept (.error (.request call.asked.endpoint.host fault))).IsPlain :=
      trivial
    cases endCall_serves hrefreshes hr hcall ho with
    | waits hcall htasks h =>
      exact .waits hcall (by rw [ask, htasks, setPhase, hagrees.tasks]; rfl) (hadds.trans h)
    | ends ho htasks h =>
      refine .ends ho (by rw [ask, htasks, setPhase, hagrees.tasks]; rfl) ?_
      have hsum := hadds.trans h
      rwa [zero_add] at hsum
  | ok request =>
    let asking : Call := { call with stage := .reply errand (v.clock.alarm requestTimeout) }
    have hasking : asking.metered := hcall
    refine .waits hasking ?_ hadds
    exact congrArg (List.modify · i _) hagrees.tasks

theorem askWith_serves (hi : w.refreshesOf i = [r]) (hr : r.metered) (hcall : call.metered)
    (api : PublicApi) (token : String) : Serves r w i (w.askWith i call api token) := by
  have hagrees := w.leaveDesk_agrees i call.asked
  refine .congr hagrees.tasks (w.leaveDesk_registry i call.asked) (ask_serves ?_ hr hcall _ _)
  rw [refreshesOf, hagrees.tasks]
  exact hi

theorem takeTurn_serves (hi : w.refreshesOf i = [r]) (hr : r.metered) (hcall : call.metered) :
    w.takeTurn i call = w ∨ Serves r w i (w.takeTurn i call) := by
  unfold takeTurn
  split
  · exact Or.inl rfl
  · split
    · split
      · exact Or.inr (askWith_serves hi hr hcall _ _)
      · exact Or.inr (ask_serves hi hr hcall _ _)
      · exact Or.inl rfl
    · exact Or.inl rfl

theorem beginCall_serves (hi : w.refreshesOf i = [r]) (hr : r.metered) (hcall : call.metered) :
    Serves r w i (w.beginCall i call) := by
  unfold beginCall
  split
  · exact ask_serves hi hr hcall _ _
  · next id api _ =>
    split
    · exact ask_serves hi hr hcall _ _
    · let v := w.setDesk id ((w.desks id).join i)
      have hrefreshes : (v.setPhase i (.calling call)).refreshesOf i = [r] :=
        (refreshesOf_setPhase v i _).trans hi
      refine .congr (v := v) rfl rfl ?_
      rcases takeTurn_serves hrefreshes hr hcall with h | h
      · rw [h]
        exact .waits hcall rfl (.of_registry rfl)
      · exact h.of_setPhase

theorem handle_serves (hi : w.refreshesOf i = [r]) (hr : r.metered) (hcall : call.metered)
    (reply : Reply) (errand : Errand) :
    w.handle i call reply errand = w ∨ Serves r w i (w.handle i call reply errand) := by
  cases errand with
  | devices => exact Or.inr (endCall_serves hi hr hcall (call.asked.devices_isPlain reply))
  | grant =>
    simp only [handle]
    split
    · exact Or.inl rfl
    · next id api _ =>
      split
      · next f hf =>
        have ho : (Outcome.ofExcept (.error f)).IsPlain := Reply.decode_isPlain hf
        exact Or.inr (endCall_serves hi hr hcall ho)
      · next grant _ =>
        let v := (w.setDesk id ((w.desks id).keep w.tokenClock grant)).tell
          (TokenDesk.lineOf w.tokenClock grant)
        have hrefreshes : v.refreshesOf i = [r] := hi
        exact Or.inr (.congr (v := v) rfl rfl (askWith_serves hrefreshes hr hcall _ _))

end

end World

/-! ## Tasks of a joint source -/

/-- Whether a source is an interface behind a cache, and both are counted. -/
def Source.IsCounted (s : Source) : Prop :=
  ∃ id frequency asked, s = .cached id frequency true (.interface asked true)

namespace Task

/-- The tasks of a joint source: those of its calls, and those which are begun for its members. -/
inductive IsPart (sources : List Source) : Task → Prop where
  | called {scope : Scope} : IsPart sources ⟨scope, none, [], .ready (.fanOut true sources)⟩
  | gathering {scope : Scope} {first : Nat} :
    IsPart sources ⟨scope, none, [], .gathering true first sources.length⟩
  | joined {scope : Scope} {slots : List Outcome} :
    IsPart sources ⟨scope, none, [], .finished (.merge slots)⟩
  | dropped {scope : Scope} : IsPart sources ⟨scope, none, [], .dropped⟩
  | begun {scope : Scope} {p : Nat} {s : Source} (hs : s ∈ sources) :
    IsPart sources ⟨scope, some p, [], .ready s⟩
  | hit {scope : Scope} {p : Nat} {devices : List Device} :
    IsPart sources ⟨scope, some p, [], .finished (.found devices)⟩
  | asking {scope : Scope} {p : Nat} {r : Refresh} {call : Call} (hr : r.metered)
    (hcall : call.metered) : IsPart sources ⟨scope, some p, [r], .calling call⟩
  | ended {scope : Scope} {p : Nat} {r : Refresh} {o : Outcome} (hr : r.metered) (ho : o.IsPlain) :
    IsPart sources ⟨scope, some p, [r], .finished (o.covered r.previous)⟩

/-- What a task of a joint source has added to the meters, but for the joint question itself. -/
def bill (t : Task) : Meter → Nat
  | .fanOuts => 0
  | .fanOutErrors => (t.outcome?.map Outcome.causes).getD 0
  | .cacheRequests => if t.parent.isSome && !t.isReady then 1 else 0
  | .cacheRefreshes => t.refreshes.length
  | .cacheStale => if t.outcome?.any Outcome.isStale then 1 else 0
  | .latencies => if t.isOver then t.refreshes.length else 0

section
variable {scope : Scope} {p : Nat}

theorem bill_called {source : Source} : bill ⟨scope, none, [], .ready source⟩ = 0 := by
  funext m
  cases m <;> rfl

theorem bill_gathering {metered : Bool} {first count : Nat} :
    bill ⟨scope, none, [], .gathering metered first count⟩ = 0 := by
  funext m
  cases m <;> rfl

theorem bill_dropped : bill ⟨scope, none, [], .dropped⟩ = 0 := by
  funext m
  cases m <;> rfl

theorem bill_joined (slots : List Outcome) : bill ⟨scope, none, [], .finished (.merge slots)⟩ =
    (Outcome.failures slots).length • Meter.one .fanOutErrors := by
  funext m
  cases m <;> simp [bill, outcome?, Outcome.causes_merge, Outcome.isStale_merge, Meter.one, isOver]

theorem bill_begun {source : Source} : bill ⟨scope, some p, [], .ready source⟩ = 0 := by
  funext m
  cases m <;> rfl

theorem bill_hit {devices : List Device} :
    bill ⟨scope, some p, [], .finished (.found devices)⟩ = Meter.one .cacheRequests := by
  funext m
  cases m <;> rfl

theorem bill_asking {r : Refresh} {call : Call} : bill ⟨scope, some p, [r], .calling call⟩ =
    Meter.one .cacheRequests + Meter.one .cacheRefreshes := by
  funext m
  cases m <;> rfl

theorem bill_ended (r : Refresh) {o : Outcome} (ho : o.IsPlain) :
    bill ⟨scope, some p, [r], .finished (o.covered r.previous)⟩ =
      Meter.one .cacheRequests + Meter.one .cacheRefreshes + World.endAmount r o := by
  funext m
  have hcauses := ho.causes_covered r.previous
  cases m <;> cases hstale : (o.covered r.previous).isStale <;>
    simp [bill, outcome?, hcauses, hstale, World.endAmount, Meter.one, isOver, isReady]

end

end Task

namespace World

/-- What a step adds to the meters is what it adds to the bill of one task, or it is a joint
    question. -/
inductive Accounts (sources : List Source) (w w' : World) : Prop where
  | stays (htasks : w'.tasks = w.tasks) (hadds : w.Adds w' 0)
  | calls {scope : Scope} (htasks : w'.tasks =
      w.tasks ++ [⟨scope, none, [], .ready (.fanOut true sources)⟩]) (hadds : w.Adds w' 0)
  | goes {i : Nat} {t t' : Task} {amount : Meter → Nat} (ht : w.tasks[i]? = some t)
      (hpart : t'.IsPart sources) (hparent : t'.parent = t.parent)
      (htasks : w'.tasks = w.tasks.set i t') (hbill : t'.bill = t.bill + amount)
      (hadds : w.Adds w' amount)
  | fansOut {i : Nat} {scope : Scope}
      (ht : w.tasks[i]? = some ⟨scope, none, [], .ready (.fanOut true sources)⟩)
      (htasks : w'.tasks = w.tasks.set i
          ⟨scope, none, [], .gathering true w.tasks.length sources.length⟩ ++
        memberTasks scope i sources)
      (hadds : w.Adds w' (Meter.one .fanOuts))

theorem modify_eq_set {α : Type} {l : List α} {i : Nat} {a : α} (h : l[i]? = some a) (f : α → α) :
    l.modify i f = l.set i (f a) := by
  rw [List.modify_eq_set_getElem?, h]
  rfl

section
variable {w v w' : World} {i p : Nat} {r : Refresh} {scope : Scope} {phase : Phase}
  {sources : List Source}

/-- What becomes of a task which calls an interface. -/
theorem Serves.exists_part (hr : r.metered) (ht : v.tasks[i]? = some ⟨scope, some p, [r], phase⟩)
    (h : Serves r v i w') : ∃ (t' : Task) (amount : Meter → Nat), t'.IsPart sources ∧
      t'.parent = some p ∧ w'.tasks = v.tasks.set i t' ∧
      t'.bill = Meter.one .cacheRequests + Meter.one .cacheRefreshes + amount ∧
      v.Adds w' amount := by
  cases h with
  | @waits call hcall htasks hadds =>
    have hpart : Task.IsPart sources ⟨scope, some p, [r], .calling call⟩ := .asking hr hcall
    refine ⟨_, 0, hpart, rfl, ?_, Task.bill_asking, hadds⟩
    rw [htasks, setPhase, modify_eq_set ht]
  | @ends o ho htasks hadds =>
    have hpart : Task.IsPart sources
        ⟨scope, some p, [r], .finished (o.covered r.previous)⟩ := .ended hr ho
    refine ⟨_, endAmount r o, hpart, rfl, ?_, Task.bill_ended r ho, hadds⟩
    rw [htasks, setPhase, modify_eq_set ht]

/-- What a step adds with which the call of an interface goes on. -/
theorem Serves.accounts {call : Call} (hr : r.metered)
    (ht : w.tasks[i]? = some ⟨scope, some p, [r], .calling call⟩) (h : Serves r w i w') :
    Accounts sources w w' := by
  obtain ⟨t', amount, hpart, hparent, htasks, hbill, hadds⟩ := h.exists_part hr ht
  exact .goes ht hpart hparent htasks (by rw [hbill, Task.bill_asking]) hadds

theorem run_called (ht : w.tasks[i]? = some ⟨scope, none, [], .ready (.fanOut true sources)⟩) :
    Accounts sources w (w.run i) := by
  let v := w.count true [.fanOut]
  have hrun : w.run i = (v.setPhase i (.gathering true v.tasks.length sources.length)).spawn
      (memberTasks scope i sources) := by
    simp only [run, ht, enter]
    rfl
  refine .fansOut ht ?_ ?_
  · rw [hrun, spawn, setPhase]
    exact congrArg (· ++ memberTasks scope i sources) (modify_eq_set ht _)
  · rw [hrun]
    exact w.count_adds [.fanOut]

/-- Who is over does nothing any more. -/
theorem run_of_isOver {t : Task} (ht : w.tasks[i]? = some t) (h : t.isOver) : w.run i = w := by
  unfold Task.isOver at h
  rw [run, ht]
  cases hp : t.phase <;> simp_all

theorem amount_of_failures (failures : List Failure) :
    ((failures.map fun _ => Event.fanOutError).map Event.amount).sum =
      failures.length • Meter.one .fanOutErrors := by
  rw [List.map_map]
  exact (congrArg List.sum List.map_const').trans (List.sum_replicate ..)

theorem run_gathering {first : Nat} (ht : w.tasks[i]? =
    some ⟨scope, none, [], .gathering true first sources.length⟩) :
    Accounts sources w (w.run i) := by
  cases hslots : w.outcomes? first sources.length with
  | none =>
    have hrun : w.run i = w := by simp only [run, ht, hslots]
    rw [hrun]
    exact .stays rfl (.refl w)
  | some slots =>
    let v := w.count true ((Outcome.failures slots).map fun _ => .fanOutError)
    have hrun : w.run i = v.finish i (.merge slots) := by simp only [run, ht, hslots, v]
    have hagrees : v.Agrees w := count_agrees _ _ _
    have hrefreshes : v.refreshesOf i = [] := by
      rw [refreshesOf, hagrees.tasks]
      exact refreshesOf_eq ht
    have hadds := (w.count_adds _).trans (finish_adds_nil v i (o := .merge slots) hrefreshes)
    rw [amount_of_failures, add_zero, ← hrun] at hadds
    have hpart : Task.IsPart sources ⟨scope, none, [], .finished (.merge slots)⟩ := .joined
    refine .goes ht hpart rfl ?_ ?_ hadds
    · rw [hrun, (finish_agrees v i _).tasks, ended, hrefreshes, hagrees.tasks, modify_eq_set ht]
      rfl
    · rw [Task.bill_joined, Task.bill_gathering, zero_add]

theorem run_begun {s : Source} (hs : s.IsCounted)
    (ht : w.tasks[i]? = some ⟨scope, some p, [], .ready s⟩) : Accounts sources w (w.run i) := by
  obtain ⟨id, frequency, asked, rfl⟩ := hs
  cases hread : (w.caches id).read w.clock with
  | fresh devices =>
    let v := w.count true [.cacheRequest]
    have hrun : w.run i = v.finish i (.found devices) := by
      simp only [run, ht, enter, hread, v]
    have hagrees : v.Agrees w := count_agrees _ _ _
    have hrefreshes : v.refreshesOf i = [] := by
      rw [refreshesOf, hagrees.tasks]
      exact refreshesOf_eq ht
    have hadds := (w.count_adds [.cacheRequest]).trans
      (finish_adds_nil v i (o := .found devices) hrefreshes)
    rw [add_zero, ← hrun] at hadds
    have hpart : Task.IsPart sources ⟨scope, some p, [], .finished (.found devices)⟩ := .hit
    refine .goes ht hpart rfl ?_ ?_ hadds
    · rw [hrun, (finish_agrees v i _).tasks, ended, hrefreshes, hagrees.tasks, modify_eq_set ht]
      rfl
    · rw [Task.bill_hit, Task.bill_begun, zero_add]
      rfl
  | expired previous =>
    let r : Refresh := ⟨id, frequency, true, previous⟩
    let v := (w.count true [.cacheRequest, .cacheRefresh]).pushRefresh i r
    have hv : v.tasks = w.tasks.set i ⟨scope, some p, [r], .ready
        (.cached id frequency true (.interface asked true))⟩ := modify_eq_set ht _
    have hlt := (List.getElem?_eq_some_iff.1 ht).1
    have htv : v.tasks[i]? = some ⟨scope, some p, [r], .ready
        (.cached id frequency true (.interface asked true))⟩ := by
      rw [hv, List.getElem?_set_self hlt]
    have hrefreshes : v.refreshesOf i = [r] := refreshesOf_eq htv
    have hserves : Serves r v i (w.run i) := by
      have hrun : w.run i = v.enter i scope (.interface asked true) := by
        simp only [run, ht, enter, hread, v, r]
      rw [hrun, enter]
      split
      · exact canceled_serves hrefreshes rfl rfl
      · exact beginCall_serves hrefreshes rfl rfl
    obtain ⟨t', amount, hpart, hparent, htasks, hbill, hadds⟩ := hserves.exists_part rfl htv
    refine .goes ht hpart hparent ?_ ?_ ((w.count_adds [.cacheRequest, .cacheRefresh]).trans hadds)
    · rw [htasks, hv, List.set_set]
    · rw [hbill, Task.bill_begun, zero_add]
      rfl

theorem run_asking {call : Call} (hr : r.metered) (hcall : call.metered)
    (ht : w.tasks[i]? = some ⟨scope, some p, [r], .calling call⟩) :
    Accounts sources w (w.run i) := by
  have hrefreshes : w.refreshesOf i = [r] := refreshesOf_eq ht
  simp only [run, ht]
  split
  · exact (canceled_serves hrefreshes hr hcall).accounts hr ht
  · split
    · rcases takeTurn_serves hrefreshes hr hcall with h | h
      · rw [h]
        exact .stays rfl (.refl w)
      · exact h.accounts hr ht
    · next errand alarm _ =>
      split
      · have ho : (Outcome.ofExcept (.error (call.asked.tooSlow errand))).IsPlain :=
          call.asked.tooSlow_isPlain errand
        exact (endCall_serves hrefreshes hr hcall ho).accounts hr ht
      · exact .stays rfl (.refl w)

theorem reply_asking {call : Call} (hr : r.metered) (hcall : call.metered)
    (ht : w.tasks[i]? = some ⟨scope, some p, [r], .calling call⟩) (reply : Reply) :
    Accounts sources w (w.reply i reply) := by
  have hrefreshes : w.refreshesOf i = [r] := refreshesOf_eq ht
  simp only [World.reply, ht]
  split
  · exact .stays rfl (.refl w)
  · next errand _ _ =>
    split
    · exact (canceled_serves hrefreshes hr hcall).accounts hr ht
    · rcases handle_serves hrefreshes hr hcall reply errand with h | h
      · rw [h]
        exact .stays rfl (.refl w)
      · exact h.accounts hr ht

/-- Who is dropped adds nothing any more. -/
theorem drop_accounts (hparts : ∀ t ∈ w.tasks, t.IsPart sources) (i : Nat) :
    Accounts sources w (w.drop i) := by
  cases hr : w.root? i with
  | none =>
    rw [drop_of_none hr]
    exact .stays rfl (.refl w)
  | some t =>
    obtain ⟨ht, hroot⟩ := root?_eq_some_iff.1 hr
    have hdrop : (w.drop i).tasks = (w.release i t).tasks ∧
        (w.drop i).registry = (w.release i t).registry := by
      rw [drop_of_root hr]
      exact ⟨rfl, rfl⟩
    cases hparts t (List.mem_of_getElem? ht) with
    | called =>
      exact .goes ht .dropped rfl (hdrop.1.trans (modify_eq_set ht _))
        (by rw [Task.bill_dropped, Task.bill_called, add_zero]) (.of_registry hdrop.2)
    | gathering =>
      exact .goes ht .dropped rfl (hdrop.1.trans (modify_eq_set ht _))
        (by rw [Task.bill_dropped, Task.bill_gathering, add_zero]) (.of_registry hdrop.2)
    | joined => exact .stays hdrop.1 (.of_registry hdrop.2)
    | dropped => exact .stays hdrop.1 (.of_registry hdrop.2)
    | _ => cases hroot

/-- **What a step adds to the meters is what it adds to the bill of one task**, or it is a joint
    question. -/
theorem step_accounts (hsources : ∀ s ∈ sources, s.IsCounted)
    (hparts : ∀ t ∈ w.tasks, t.IsPart sources) {l : Label}
    (hl : ∀ s, l.source? = some s → s = .fanOut true sources) : Accounts sources w (w.step l) := by
  cases l with
  | call s =>
    obtain rfl := hl s rfl
    exact .calls rfl (.of_registry rfl)
  | serve s =>
    obtain rfl := hl s rfl
    exact .calls rfl (.of_registry rfl)
  | run i =>
    rw [step]
    cases ht : w.tasks[i]? with
    | none =>
      have hrun : w.run i = w := by simp only [run, ht]
      rw [hrun]
      exact .stays rfl (.refl w)
    | some t =>
      have hover : t.isOver → Accounts sources w (w.run i) := fun hover => by
        rw [run_of_isOver ht hover]
        exact .stays rfl (.refl w)
      cases hparts t (List.mem_of_getElem? ht) with
      | called => exact run_called ht
      | gathering => exact run_gathering ht
      | begun hs => exact run_begun (hsources _ hs) ht
      | asking hr hcall => exact run_asking hr hcall ht
      | _ => exact hover rfl
  | reply i r =>
    rw [step]
    by_cases hasking : ∃ scope p r' call, Refresh.metered r' ∧ Call.metered call ∧
        w.tasks[i]? = some ⟨scope, some p, [r'], .calling call⟩
    · obtain ⟨scope, p, r', call, hr, hcall, ht⟩ := hasking
      exact reply_asking hr hcall ht r
    · have hreply : w.reply i r = w := by
        unfold reply
        split
        · next scope parent rs call ht =>
          cases hparts _ (List.mem_of_getElem? ht) with
          | asking hr hcall => exact absurd ⟨_, _, _, _, hr, hcall, ht⟩ hasking
        · rfl
      rw [hreply]
      exact .stays rfl (.refl w)
  | cancel i =>
    rw [step, cancelTask]
    split <;> exact .stays rfl (.of_registry rfl)
  | drop i => exact drop_accounts hparts i
  | shutDown => exact .stays rfl (.of_registry rfl)
  | advance d => exact .stays rfl (.of_registry rfl)
  | age d => exact .stays rfl (.of_registry rfl)

end

end World

end TailnetTargets
