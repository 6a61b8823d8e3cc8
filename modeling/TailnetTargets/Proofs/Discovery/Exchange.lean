/-
  Access tokens which are given out.

  * `Exchange`: a token which was given out to a task, with the reply in which it came;
  * `Exchange.IsFresh`: the token of an exchange may be used again;
  * `World.exchange?` is the exchange which succeeds in a step at a desk, and `World.exchanges` are
    those along a run, in their order;
  * `World.Gives`: what a step does with tokens and requests (`step_gives`);
  * `World.sends`: the requests which a step sends, at most one (`sends_cases`);
  * `kept_after`: a desk keeps the token of the last exchange, if the clock can show its end;
  * `bearer_fresh`: who asks for devices shows the token of the last exchange, and before its end;
  * `clerk`, `shared`: two calls which need one exchange.
-/
import Mathlib.Data.List.Induction
import TailnetTargets.Proofs.Client.Grant
import TailnetTargets.Proofs.Discovery.Requests

namespace TailnetTargets

/-- A token which was given out. -/
structure Exchange where
  /-- the task to which it was given -/
  task : Nat
  /-- when it was, by the clock of the tokens -/
  time : Instant
  /-- the reply in which it came -/
  reply : Reply
  /-- the token -/
  grant : Grant

/-- What is kept of an exchange. -/
def Exchange.kept (e : Exchange) : Option AccessToken := TokenDesk.tokenOf? e.time e.grant

/-- The desk and the interface from which a task waits for a token. -/
def Task.exchanging? (t : Task) : Option (Nat × PublicApi) :=
  match t.phase with
  | .calling { asked := .publicApi id api, stage := .reply .grant _, .. } => some (id, api)
  | _ => none

theorem Task.exchanging?_eq_some_iff {t : Task} {id : Nat} {api : PublicApi} :
    t.exchanging? = some (id, api) ↔ ∃ call alarm, t.phase = .calling call ∧
      call.asked = .publicApi id api ∧ call.stage = .reply .grant alarm := by
  unfold exchanging?
  split
  · next id' api' metered began alarm hp =>
    rw [hp]
    constructor
    · rintro ⟨⟩
      exact ⟨_, alarm, rfl, rfl, rfl⟩
    · rintro ⟨call, alarm', hp', hasked, hstage⟩
      cases hp'
      cases hasked
      rfl
  · next hnot =>
    constructor
    · rintro ⟨⟩
    · rintro ⟨⟨asked, metered, began, stage⟩, alarm, hp, hasked, hstage⟩
      cases hasked
      cases hstage
      exact absurd hp (hnot _ _ _ _ _)

namespace World

/-- The exchange which succeeds in a step at a desk. -/
def exchange? (w : World) (l : Label) (id : Nat) : Option Exchange :=
  match l with
  | .reply i r =>
    match w.tasks[i]? with
    | some t =>
      match t.exchanging? with
      | some (id', api) =>
        match api.grant r with
        | .ok grant =>
          if id' = id ∧ ¬ w.isCanceled t.scope then some ⟨i, w.tokenClock, r, grant⟩ else none
        | .error _ => none
      | none => none
    | none => none
  | _ => none

/-- The exchanges which succeed along a run at a desk. -/
def exchanges (w : World) (id : Nat) : List Label → List Exchange
  | [] => []
  | l :: labels => (w.exchange? l id).toList ++ (w.step l).exchanges id labels

/-- The requests which a step sends. -/
def sends (w : World) (l : Label) : List Sent := (w.step l).sent.drop w.sent.length

/-! ## Exchanges -/

theorem exchange?_eq_some_iff {w : World} {l : Label} {id : Nat} {e : Exchange} :
    w.exchange? l id = some e ↔ ∃ t api, l = .reply e.task e.reply ∧
      w.tasks[e.task]? = some t ∧ t.exchanging? = some (id, api) ∧ ¬ w.isCanceled t.scope ∧
      api.grant e.reply = .ok e.grant ∧ e.time = w.tokenClock := by
  constructor
  · intro h
    unfold exchange? at h
    split at h
    · split at h
      · next t ht =>
        split at h
        · next id' api hexchanging =>
          split at h
          · next grant hgrant =>
            split at h
            · next hif =>
              cases h
              exact ⟨t, api, rfl, ht, hif.1 ▸ hexchanging, hif.2, hgrant, rfl⟩
            · cases h
          · cases h
        · cases h
      · cases h
    · cases h
  · rintro ⟨t, api, rfl, ht, hexchanging, hscope, hgrant, htime⟩
    simp only [exchange?, ht, hexchanging, hgrant, true_and, if_pos hscope, ← htime]

/-- A token is given out at one desk. -/
theorem exchange?_unique {w : World} {l : Label} {m n : Nat} {e e' : Exchange}
    (h : w.exchange? l m = some e) (h' : w.exchange? l n = some e') : m = n := by
  obtain ⟨t, api, hl, ht, hexchanging, -⟩ := exchange?_eq_some_iff.1 h
  obtain ⟨t', api', hl', ht', hexchanging', -⟩ := exchange?_eq_some_iff.1 h'
  rw [← (Label.reply.inj (hl.symm.trans hl')).1] at ht'
  cases ht.symm.trans ht'
  cases hexchanging.symm.trans hexchanging'
  rfl

theorem exchanges_append (w : World) (id : Nat) (first second : List Label) :
    w.exchanges id (first ++ second) =
      w.exchanges id first ++ (w.after first).exchanges id second := by
  induction first generalizing w with
  | nil => rfl
  | cons l first ih => simp only [List.cons_append, exchanges, ih, after_cons, List.append_assoc]

theorem exchanges_snoc (w : World) (id : Nat) (labels : List Label) (l : Label) :
    w.exchanges id (labels ++ [l]) =
      w.exchanges id labels ++ ((w.after labels).exchange? l id).toList := by
  rw [exchanges_append, exchanges, exchanges, List.append_nil]

/-! ## Steps -/

/-- What a step does with tokens and requests. -/
inductive Gives (w : World) (l : Label) : Prop where
  /-- tokens grow older -/
  | ages {d : Duration} (hl : l = .age d)
  /-- no token is given out, and a request is sent at most by a task which has sent none before -/
  | asks (hnone : ∀ id, w.exchange? l id = none)
      (h : Asks (fun s => l = .run s.task ∧ s.Begins w.token? ∧
        ∃ t, w.tasks[s.task]? = some t ∧ t.isIdle) w (w.step l))
  /-- a token is given out and kept, and shown at once by the task to which it was given -/
  | gives {id : Nat} {api : PublicApi} {e : Exchange} (he : w.exchange? l id = some e)
      (hother : ∀ n, n ≠ id → w.exchange? l n = none)
      (h : Asks (fun s => s.task = e.task ∧ s.asked = .publicApi id api ∧
          api.devicesRequest (PublicApi.bearerAuthorization e.grant.token) = .ok s.request)
        (w.setDesk id ((w.desks id).keep e.time e.grant)) (w.step l))

/-- Who is given a token asks for devices with it. -/
theorem reply_of_exchange {w : World} {i id : Nat} {r : Reply} {t : Task} {api : PublicApi}
    {grant : Grant} (ht : w.tasks[i]? = some t) (hexchanging : t.exchanging? = some (id, api))
    (hscope : ¬ w.isCanceled t.scope) (hgrant : api.grant r = .ok grant) :
    ∃ call, call.asked = .publicApi id api ∧ w.reply i r =
      ((w.setDesk id ((w.desks id).keep w.tokenClock grant)).tell
        (TokenDesk.lineOf w.tokenClock grant)).askWith i call api grant.token := by
  obtain ⟨scope, parent, rs, phase⟩ := t
  obtain ⟨call, alarm, rfl, hasked, hstage⟩ := Task.exchanging?_eq_some_iff.1 hexchanging
  refine ⟨call, hasked, ?_⟩
  simp only [reply, ht, hstage, if_neg hscope, handle, hasked, hgrant]
  rfl

theorem reply_gives (w : World) (i : Nat) (r : Reply) : Gives w (.reply i r) := by
  by_cases hex : ∃ id e, w.exchange? (.reply i r) id = some e
  · obtain ⟨id, e, he⟩ := hex
    obtain ⟨t, api, hl, ht, hexchanging, hscope, hgrant, htime⟩ := exchange?_eq_some_iff.1 he
    cases hl
    obtain ⟨call, hasked, hreply⟩ := reply_of_exchange ht hexchanging hscope hgrant
    refine @Gives.gives w _ id api e he (fun n hn => ?_) ?_
    · exact Option.eq_none_iff_forall_ne_some.2 fun e' he' => hn (exchange?_unique he' he)
    · rw [step, hreply, htime]
      exact .of_quiet (tell_quiet _ _) (askWith_asks _ _ call fun _ hr => ⟨rfl, hasked, hr⟩)
  · have hnone : ∀ id, w.exchange? (.reply i r) id = none := fun id =>
      Option.eq_none_iff_forall_ne_some.2 fun e he => hex ⟨id, e, he⟩
    suffices h : w.Quiet (w.reply i r) from .asks hnone h.asks
    unfold reply
    split
    · next scope parent rs call ht =>
      split
      · exact .refl w
      · next errand alarm hstage =>
        split
        · exact w.endCall_quiet i call _
        · next hscope =>
          unfold handle
          split
          · exact w.endCall_quiet i call _
          · split
            · exact .refl w
            · next id api hasked =>
              split
              · exact w.endCall_quiet i call _
              · next grant hgrant =>
                refine absurd ?_ hex
                exact ⟨id, ⟨i, w.tokenClock, r, grant⟩, exchange?_eq_some_iff.2 ⟨_, api, rfl, ht,
                  Task.exchanging?_eq_some_iff.2 ⟨call, alarm, rfl, hasked, hstage⟩, hscope,
                  hgrant, rfl⟩⟩
    · exact .refl w

theorem step_gives (w : World) (l : Label) : Gives w l := by
  cases l with
  | run i =>
    refine .asks (fun _ => rfl) ((w.run_asks i).mono ?_)
    rintro s ⟨rfl, hbegins, hidle⟩
    exact ⟨rfl, hbegins, hidle⟩
  | reply i r => exact reply_gives w i r
  | cancel i =>
    refine .asks (fun _ => rfl) (Quiet.asks ?_)
    rw [step, cancelTask]
    split <;> exact ⟨rfl, fun _ => rfl, rfl⟩
  | drop i => exact .asks (fun _ => rfl) (w.drop_quiet i).asks
  | age d => exact .ages rfl
  | _ => exact .asks (fun _ => rfl) (Quiet.asks ⟨rfl, fun _ => rfl, rfl⟩)

section
variable {w : World} {l : Label}

/-- What is kept at a desk changes only when a token is given out there. -/
theorem kept_step (w : World) (l : Label) (id : Nat) : ((w.step l).desks id).kept =
    match w.exchange? l id with
    | some e => e.kept
    | none => (w.desks id).kept := by
  cases step_gives w l with
  | ages hl => subst hl; rfl
  | asks hnone h => simp only [hnone, h.kept]
  | @gives id' api e he hother h =>
    rw [h.kept]
    by_cases hid : id = id'
    · subst hid
      simp [he, setDesk, TokenDesk.keep, Exchange.kept]
    · simp [hother id hid, setDesk, setAt_of_ne _ _ hid]

theorem tokenClock_le_step (w : World) (l : Label) : w.tokenClock ≤ (w.step l).tokenClock := by
  cases step_gives w l with
  | @ages d hl => subst hl; exact Nat.le_add_right ..
  | asks _ h => rw [h.tokenClock]; exact Nat.le_refl _
  | gives _ _ h => rw [h.tokenClock]; exact Nat.le_refl _

/-- How a request can come to be sent. -/
inductive Sends (w : World) (l : Label) (s : Sent) : Prop where
  /-- by a task which has sent none before -/
  | first {t : Task} (hl : l = .run s.task) (hbegins : s.Begins w.token?)
      (ht : w.tasks[s.task]? = some t) (hidle : t.isIdle)
  /-- by a task to which a token is given -/
  | shows {id : Nat} {api : PublicApi} {e : Exchange} (he : w.exchange? l id = some e)
      (htask : e.task = s.task) (hasked : s.asked = .publicApi id api)
      (hrequest : api.devicesRequest (PublicApi.bearerAuthorization e.grant.token) = .ok s.request)

theorem Sends.lt {s : Sent} (h : Sends w l s) : s.task < w.tasks.length := by
  cases h with
  | first _ _ ht _ => exact (List.getElem?_eq_some_iff.1 ht).1
  | shows he htask =>
    obtain ⟨t, api, -, ht, -⟩ := exchange?_eq_some_iff.1 he
    rw [← htask]
    exact (List.getElem?_eq_some_iff.1 ht).1

theorem sent_step (w : World) (l : Label) : (w.step l).sent = w.sent ++ w.sends l := by
  have h : ∃ new, (w.step l).sent = w.sent ++ new := by
    cases step_gives w l with
    | ages hl => exact ⟨[], by subst hl; simp [step]⟩
    | asks _ h => exact h.exists_sent
    | gives _ _ h => exact h.exists_sent
  obtain ⟨new, h⟩ := h
  rw [sends, h, List.drop_left]

/-- A step sends one request at most. -/
theorem sends_cases (w : World) (l : Label) : w.sends l = [] ∨
    ∃ s, w.sends l = [s] ∧ Sends w l s ∧ (w.step l).NotIdle s.task := by
  cases step_gives w l with
  | ages hl => subst hl; exact Or.inl (List.drop_length ..)
  | asks _ h =>
    rcases h.sent with hsent | ⟨s, hsent, ⟨hl, hbegins, t, ht, hidle⟩, hbusy⟩
    · exact Or.inl (by rw [sends, hsent, List.drop_length])
    · exact Or.inr ⟨s, by rw [sends, hsent, List.drop_left], .first hl hbegins ht hidle, hbusy⟩
  | gives he _ h =>
    rcases h.sent with hsent | ⟨s, hsent, ⟨htask, hasked, hrequest⟩, hbusy⟩
    · exact Or.inl (by rw [sends, hsent, setDesk, List.drop_length])
    · exact Or.inr ⟨s, by rw [sends, hsent, setDesk, List.drop_left],
        .shows he htask.symm hasked hrequest, hbusy⟩

theorem sends_of_mem {s : Sent} (hs : s ∈ w.sends l) :
    Sends w l s ∧ (w.step l).NotIdle s.task := by
  rcases sends_cases w l with h | ⟨s', h, hsends, hbusy⟩
  · rw [h] at hs
    cases hs
  · rw [h] at hs
    obtain rfl := List.mem_singleton.1 hs
    exact ⟨hsends, hbusy⟩

end

/-! ## Runs -/

/-- A desk keeps the token of the last exchange. -/
theorem kept_after (w : World) (id : Nat) (labels : List Label) :
    ((w.after labels).desks id).kept =
      match (w.exchanges id labels).getLast? with
      | some e => e.kept
      | none => (w.desks id).kept := by
  induction labels using List.reverseRecOn with
  | nil => rfl
  | append_singleton labels l ih =>
    rw [after_snoc, kept_step, exchanges_snoc]
    cases (w.after labels).exchange? l id with
    | none => simpa using ih
    | some e => simp

section
variable {w₀ : World} {id : Nat} {labels : List Label}

/-- Whether the task which sent a request had been given the token which it shows. -/
def IsShown (w₀ : World) (labels : List Label) (s : Sent) : Prop :=
  ∃ id api e, s.asked = .publicApi id api ∧ e ∈ w₀.exchanges id labels ∧ e.task = s.task ∧
    api.devicesRequest (PublicApi.bearerAuthorization e.grant.token) = .ok s.request

theorem IsShown.append {s : Sent} (h : w₀.IsShown labels s) (more : List Label) :
    w₀.IsShown (labels ++ more) s := by
  obtain ⟨id, api, e, hasked, he, htask, hrequest⟩ := h
  refine ⟨id, api, e, hasked, ?_, htask, hrequest⟩
  rw [exchanges_append]
  exact List.mem_append_left _ he

end

/-! ## A token which is used twice -/

/-- A client of the public interface which is given tokens. -/
def clerk : PublicApi := ⟨⟨"http://h", "h"⟩, "t", .client "id" "secret"⟩

/-- A token which is accepted for a hundred seconds. -/
def hundred : Reply :=
  .answered 200 "\x7b\"access_token\":\"a\",\"expires_in\":100\x7d".toUTF8.toList true

/-- A call which is given a token, and another one thirty-nine seconds later. -/
def shared : List Label :=
  [.call (.interface (.publicApi 0 clerk) false), .run 0, .reply 0 hundred,
    .call (.interface (.publicApi 0 clerk) false), .age (.ofSeconds 39)]

/-- Another second later a new token is asked for. -/
example : ((({} : World).after (shared ++ [.age (.ofSeconds 1)])).sends (.run 1)).map
    (·.request.method) = [.post] := by decide +kernel

end World

end TailnetTargets
