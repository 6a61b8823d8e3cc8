/-
  How the world changes.

  * `Label`: what can happen next;
  * `World.step` is the world after it, `World.after` the world after several things;
  * `World.run` lets a task go on as far as it can without help: it calls its source, takes its
    turn at a token desk, gives up because it was canceled or waited too long, or joins the
    outcomes of the tasks for which it waits;
  * `World.reply` gives a task the reply for which it waits;
  * `World.drop` is what happens when nobody wants the outcome of a task any more.

  A task which is canceled sends nothing more: `run` and `reply` look at its scope before they do
  anything for a call.  A token desk is left by whoever stops being in line, so no task holds up
  the others for longer than its call takes.
-/
import TailnetTargets.Discovery.World

namespace TailnetTargets

/-- What can happen next. -/
inductive Label where
  /-- a source is called from outside -/
  | call (source : Source)
  /-- a source is called in order to serve its devices -/
  | serve (source : Source)
  /-- a task goes on -/
  | run (task : Nat)
  /-- a task gets a reply -/
  | reply (task : Nat) (r : Reply)
  /-- a call from outside is canceled -/
  | cancel (task : Nat)
  /-- nobody wants the outcome of a call from outside any more -/
  | drop (task : Nat)
  /-- everything that is served is canceled -/
  | shutDown
  /-- time passes for caches and timers -/
  | advance (d : Duration)
  /-- time passes for access tokens -/
  | age (d : Duration)

namespace World

/-! ## Calls of interfaces -/

/-- A task goes from the token desk of an interface. -/
def leaveDesk (w : World) (i : Nat) : Interface → World
  | .localApi _ => w
  | .publicApi id _ => w.setDesk id ((w.desks id).leave i)

/-- What is counted when a call ends. -/
def callEvents (w : World) (call : Call) (result : Except Failure (List Device)) : List Event :=
  let latency := .latency call.asked.endpoint (w.tokenClock.since call.began)
  match result with
  | .ok devices => latency :: call.asked.discoveries devices
  | .error failure => failure.accounting call.asked.endpoint ++ [latency]

/-- Ends a call. -/
def endCall (w : World) (i : Nat) (call : Call) (result : Except Failure (List Device)) : World :=
  let w := (w.leaveDesk i call.asked).count call.metered (w.callEvents call result)
  (w.tell (call.asked.lineOf result)).finish i (.ofExcept result)

/-- Sends a request. -/
def send (w : World) (i : Nat) (asked : Interface) (request : Request) : World :=
  { w with sent := w.sent ++ [⟨i, asked, request⟩] }

/-- Sends the request of a call, if it could be put together. -/
def ask (w : World) (i : Nat) (call : Call) (errand : Errand)
    (request : Except RequestFault Request) : World :=
  let w := w.count call.metered [.request call.asked.endpoint]
  match request with
  | .error fault => w.endCall i call (.error (.request call.asked.endpoint.host fault))
  | .ok request =>
    (w.send i call.asked request).setPhase i
      (.calling { call with stage := .reply errand (w.clock.alarm requestTimeout) })

/-- Asks for devices with an access token which was given out. -/
def askWith (w : World) (i : Nat) (call : Call) (api : PublicApi) (token : String) : World :=
  (w.leaveDesk i call.asked).ask i call .devices
    (api.devicesRequest (PublicApi.bearerAuthorization token))

/-- Takes a turn at a token desk: with a token that is kept the devices are asked for, without one
    a token is. -/
def takeTurn (w : World) (i : Nat) (call : Call) : World :=
  match call.asked with
  | .localApi _ => w
  | .publicApi id api =>
    if (w.desks id).isTurnOf i then
      match (w.desks id).usable? w.tokenClock, api.credentials with
      | some token, _ => w.askWith i call api token
      | none, .client client secret => w.ask i call .grant (api.tokenRequest client secret)
      | none, .token _ => w
    else w

/-- Begins a call. -/
def beginCall (w : World) (i : Nat) (call : Call) : World :=
  match call.asked with
  | .localApi _ => w.ask i call .devices (.ok LocalApi.request)
  | .publicApi id api =>
    match api.credentials with
    | .token token =>
      w.ask i call .devices (api.devicesRequest (PublicApi.basicAuthorization token))
    | .client _ _ =>
      ((w.setDesk id ((w.desks id).join i)).setPhase i (.calling call)).takeTurn i call

/-- What a call does with a reply. -/
def handle (w : World) (i : Nat) (call : Call) (r : Reply) : Errand → World
  | .devices => w.endCall i call (call.asked.devices r)
  | .grant =>
    match call.asked with
    | .localApi _ => w
    | .publicApi id api =>
      match api.grant r with
      | .error failure => w.endCall i call (.error failure)
      | .ok grant =>
        let w := w.setDesk id ((w.desks id).keep w.tokenClock grant)
        (w.tell (TokenDesk.lineOf w.tokenClock grant)).askWith i call api grant.token

/-! ## Tasks -/

/-- Calls a scripted source. -/
def perform (w : World) (i id : Nat) : World :=
  let script := w.scripts id
  let cue := script.next
  let w := { w with scripts := setAt w.scripts id { script with calls := script.calls + 1 } }
  match cue.delay with
  | none => w.finish i cue.outcome
  | some delay => w.setPhase i (.paused ⟨id, w.clock.alarm delay, cue.isDeaf, cue.outcome⟩)

/-- Ends the wait of a scripted source which was canceled. -/
def interrupt (w : World) (i id : Nat) : World :=
  let script := w.scripts id
  let w := { w with
    scripts := setAt w.scripts id { script with cancellations := script.cancellations + 1 } }
  w.finish i (.failed .canceled)

/-- Calls a source for a task. -/
def enter (w : World) (i : Nat) (scope : Scope) : Source → World
  | .scripted id => w.perform i id
  | .interface asked metered =>
    let call : Call := ⟨asked, metered, w.tokenClock, .turn⟩
    if w.isCanceled scope then w.endCall i call (.error .canceled) else w.beginCall i call
  | .cached id frequency metered inner =>
    match (w.caches id).read w.clock with
    | .fresh devices => (w.count metered [.cacheRequest]).finish i (.found devices)
    | .expired previous =>
      ((w.count metered [.cacheRequest, .cacheRefresh]).pushRefresh i
        ⟨id, frequency, metered, previous⟩).enter i scope inner
  | .fanOut metered members =>
    let w := w.count metered [.fanOut]
    let w := w.setPhase i (.gathering metered w.tasks.length members.length)
    { w with
      tasks := w.tasks ++ members.map fun m =>
        { scope := scope.within i, parent := some i, phase := .ready m } }

/-- Lets a task go on as far as it can without help. -/
def run (w : World) (i : Nat) : World :=
  match w.tasks[i]? with
  | none => w
  | some t =>
    match t.phase with
    | .ready source => w.enter i t.scope source
    | .paused pause =>
      if !pause.isDeaf && w.isCanceled t.scope then w.interrupt i pause.script
      else if pause.alarm ≤ w.clock then w.finish i pause.outcome
      else w
    | .calling call =>
      if w.isCanceled t.scope then w.endCall i call (.error .canceled)
      else
        match call.stage with
        | .turn => w.takeTurn i call
        | .reply errand alarm =>
          if alarm ≤ w.clock then w.endCall i call (.error (call.asked.tooSlow errand)) else w
    | .gathering metered first count =>
      match w.outcomes? first count with
      | some outcomes =>
        (w.count metered ((Outcome.failures outcomes).map fun _ => .fanOutError)).finish i
          (Outcome.merge outcomes)
      | none => w
    | .finished _ | .dropped => w

/-- Gives a task the reply for which it waits. -/
def reply (w : World) (i : Nat) (r : Reply) : World :=
  match w.tasks[i]? with
  | some { scope, phase := .calling call, .. } =>
    match call.stage with
    | .turn => w
    | .reply errand _ =>
      if w.isCanceled scope then w.endCall i call (.error .canceled) else w.handle i call r errand
  | _ => w

/-! ## Calls from outside -/

/-- Calls a source from outside. -/
def begin (w : World) (scope : Scope) (source : Source) : World :=
  { w with tasks := w.tasks ++ [{ scope, phase := .ready source }] }

/-- The task of a call from outside. -/
def root? (w : World) (i : Nat) : Option Task := w.tasks[i]?.filter fun t => t.parent.isNone

theorem root?_eq_some_iff {w : World} {i : Nat} {t : Task} :
    w.root? i = some t ↔ w.tasks[i]? = some t ∧ t.parent = none := by
  rw [root?, Option.filter_eq_some_iff, Option.isNone_iff_eq_none]

/-- Cancels a call from outside. -/
def cancelTask (w : World) (i : Nat) : World :=
  match w.root? i with
  | some t => w.cancel t.scope
  | none => w

/-- Lets go of what a task does itself. -/
def release (w : World) (i : Nat) (t : Task) : World :=
  match t.phase with
  | .ready _ | .paused _ | .gathering .. => w.setPhase i .dropped
  | .calling call => (w.leaveDesk i call.asked).setPhase i .dropped
  | .finished _ | .dropped => w

/-- Drops a call from outside, and cancels what ends with it. -/
def drop (w : World) (i : Nat) : World :=
  match w.root? i with
  | some t => (w.release i t).close i
  | none => w

theorem drop_of_root {w : World} {i : Nat} {t : Task} (h : w.root? i = some t) :
    w.drop i = (w.release i t).close i := by
  simp only [drop, h]

theorem drop_of_none {w : World} {i : Nat} (h : w.root? i = none) : w.drop i = w := by
  simp only [drop, h]

/-! ## Steps -/

/-- The world after something happened. -/
def step (w : World) : Label → World
  | .call source => w.begin (.ofCall w.tasks.length) source
  | .serve source => w.begin (Scope.shutdown.within w.tasks.length) source
  | .run i => w.run i
  | .reply i r => w.reply i r
  | .cancel i => w.cancelTask i
  | .drop i => w.drop i
  | .shutDown => w.cancel .shutdown
  | .advance d => { w with clock := w.clock.advance d }
  | .age d => { w with tokenClock := w.tokenClock.advance d }

/-- The world after several things happened. -/
def after (w : World) (labels : List Label) : World := labels.foldl step w

end World

end TailnetTargets
