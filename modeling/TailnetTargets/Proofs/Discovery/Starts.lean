/-
  When tokens are asked for.

  * `Exchange.IsReusable`: the token of an exchange may be used again;
  * `World.IsExchanging`: a task waits for a token to be given out at a desk;
  * `World.Starts`: what a step does with those who do (`step_starts`).  An exchange starts when a
    token is asked for (`starts_iff`), and where there is none (`token?_of_start`);
  * `reply_leaves`: a reply ends it;
  * `not_isExchanging_of_reusable`: while the token of the last exchange may be used, nobody waits for
    another one.
-/
import TailnetTargets.Proofs.Discovery.Queue

namespace TailnetTargets

/-- Whether the token of an exchange may be used again at an instant: the clock can show its end,
    and it has not come. -/
def Exchange.IsReusable (e : Exchange) (now : Instant) : Prop :=
  now < e.time.advance e.grant.lifetime ∧ e.time.advance e.grant.lifetime < .horizon

theorem Exchange.IsReusable.of_le {e : Exchange} {now later : Instant} (h : e.IsReusable later)
    (hle : now ≤ later) : e.IsReusable now :=
  ⟨Nat.lt_of_le_of_lt hle h.1, h.2⟩

/-- What a task stands at a desk for. -/
theorem Phase.of_place? {phase : Phase} {id : Nat} (h : phase.place? = some id) :
    ∃ call api, phase = .calling call ∧ call.asked = .publicApi id api ∧
      ((call.stage = .turn ∧ ∃ client secret, api.credentials = .client client secret) ∨
        ∃ alarm, call.stage = .reply .grant alarm) := by
  unfold place? at h
  split at h
  · next id' api metered began =>
    split at h
    · next client secret hcredentials =>
      cases h
      exact ⟨_, api, rfl, rfl, Or.inl ⟨rfl, client, secret, hcredentials⟩⟩
    · cases h
  · next id' api metered began alarm =>
    cases h
    exact ⟨_, api, rfl, rfl, Or.inr ⟨alarm, rfl⟩⟩
  · cases h

namespace World

/-- Whether a task waits for a token to be given out at a desk. -/
def IsExchanging (w : World) (id i : Nat) : Prop :=
  ∃ t api, w.tasks[i]? = some t ∧ t.exchanging? = some (id, api)

section
variable {w : World} {id i : Nat}

theorem isExchanging_iff : w.IsExchanging id i ↔ w.queue.busy i = some id := by
  have h : w.queue.busy i = w.tasks[i]?.bind fun t => t.exchanging?.map (·.1) := by
    simp only [queue, Task.exchanging?_map]
  rw [h, IsExchanging]
  constructor
  · rintro ⟨t, api, ht, hexchanging⟩
    simp [ht, hexchanging]
  · intro hsome
    obtain ⟨t, ht, hmap⟩ := Option.bind_eq_some_iff.1 hsome
    obtain ⟨⟨n, api⟩, hexchanging, rfl⟩ := Option.map_eq_some_iff.1 hmap
    exact ⟨t, api, ht, hexchanging⟩

/-- Only the first in line is being given a token. -/
theorem IsExchanging.head? (hq : w.queue.IsOrderly) (h : w.IsExchanging id i) :
    (w.desks id).line.head? = some i := hq.first id i (isExchanging_iff.1 h)

theorem isExchanging_unique {j : Nat} (hq : w.queue.IsOrderly) (hi : w.IsExchanging id i)
    (hj : w.IsExchanging id j) : i = j :=
  Option.some.inj ((hi.head? hq).symm.trans (hj.head? hq))

/-- Who stands in line waits for its turn, or for a token to be given out. -/
theorem call_of_mem_line (hq : w.queue.IsOrderly) (hi : i ∈ (w.desks id).line) :
    ∃ t call api, w.tasks[i]? = some t ∧ t.phase = .calling call ∧
      call.asked = .publicApi id api ∧
      ((call.stage = .turn ∧ ∃ client secret, api.credentials = .client client secret) ∨
        ∃ alarm, call.stage = .reply .grant alarm) := by
  obtain ⟨t, ht, hplace⟩ := Option.bind_eq_some_iff.1 ((hq.mem_iff id i).1 hi)
  obtain ⟨call, api, hp, hasked, hstage⟩ := Phase.of_place? hplace
  exact ⟨t, call, api, ht, hp, hasked, hstage⟩

/-! ## Starts of exchanges -/

/-- What a step does with those who wait for a token to be given out: none of them is new, or one is
    who finds no token and asks for one. -/
inductive Starts (w : World) (l : Label) : Prop where
  | none (hold : ∀ id i, (w.step l).IsExchanging id i → w.IsExchanging id i)
      (hget : ∀ s ∈ w.sends l, s.request.method = .get)
  | one {id : Nat} {s : Sent} (htoken : w.token? id = Option.none)
      (hnot : ∀ n, ¬ w.IsExchanging n s.task)
      (hself : ∀ n, (w.step l).IsExchanging n s.task ↔ n = id)
      (hold : ∀ n i, i ≠ s.task → (w.step l).IsExchanging n i → w.IsExchanging n i)
      (hsends : w.sends l = [s]) (hasked : s.asked.desk? = some id)
      (hpost : s.request.method = .post)

theorem step_starts (hq : w.queue.IsOrderly) (l : Label) : Starts w l := by
  obtain ⟨j, q, harrives, hgoes⟩ := step_goes hq l
  have hsent : q.sent = w.sent := by cases harrives <;> rfl
  have hbusy : ∀ n i, q.busy i = some n → w.IsExchanging n i := fun n i h => by
    rw [isExchanging_iff]
    cases harrives with
    | stays => exact h
    | joins hplace =>
      by_cases hi : i = j
      · simp [Queue.join, hi] at h
      · simpa [Queue.join, setAt_of_ne _ _ hi] using h
  have hnew : ∀ new, (w.step l).queue.sent = q.sent ++ new → w.sends l = new := fun new h => by
    rw [sends, show (w.step l).sent = w.sent ++ new from hsent ▸ h, List.drop_left]
  generalize hq' : (w.step l).queue = q' at hgoes hnew
  have hafter : ∀ n i, (w.step l).IsExchanging n i ↔ q'.busy i = some n := fun n i => by
    rw [isExchanging_iff, hq']
  cases hgoes with
  | stays =>
    refine .none (fun n i h => hbusy n i ((hafter n i).1 h)) fun s hs => ?_
    rw [hnew [] (List.append_nil _).symm] at hs
    cases hs
  | leaves _ hget =>
    refine .none (fun n i h => ?_) fun s hs => (hget s (hnew _ rfl ▸ hs)).2
    rw [hafter] at h
    by_cases hi : i = j
    · simp [Queue.leave, hi] at h
    · exact hbusy n i (by simpa [Queue.leave, setAt_of_ne _ _ hi] using h)
  | @asks id s hturn hidle htoken htask hasked hpost =>
    subst htask
    refine .one htoken (fun n hn => ?_) (fun n => ?_) (fun n i hi h => ?_) (hnew _ rfl) hasked hpost
    · rw [isExchanging_iff] at hn
      cases harrives with
      | stays => rw [hn] at hidle; cases hidle
      | joins hplace =>
        have hline := (hq.mem_iff n s.task).1 (List.mem_of_head? (hq.first n s.task hn))
        rw [hplace] at hline
        cases hline
    · rw [hafter]
      simp [Queue.ask, eq_comm]
    · rw [hafter] at h
      exact hbusy n i (by simpa [Queue.ask, setAt_of_ne _ _ hi] using h)

/-- An exchange starts when a token is asked for. -/
theorem starts_iff (hq : w.queue.IsOrderly) (l : Label) (id i : Nat) :
    ¬ w.IsExchanging id i ∧ (w.step l).IsExchanging id i ↔
      ∃ s ∈ w.sends l, s.task = i ∧ s.asked.desk? = some id ∧ s.request.method = .post := by
  cases step_starts hq l with
  | none hold hget =>
    constructor
    · rintro ⟨hnot, h⟩
      exact absurd (hold id i h) hnot
    · rintro ⟨s, hs, -, -, hpost⟩
      rw [hget s hs] at hpost
      cases hpost
  | @one n s _ hnot hself hold hsends hasked hpost =>
    rw [hsends]
    constructor
    · rintro ⟨hfirst, h⟩
      have htask : i = s.task := by
        by_contra hi
        exact hfirst (hold id i hi h)
      subst htask
      exact ⟨s, List.mem_singleton_self s, rfl, (hself id).1 h ▸ hasked, hpost⟩
    · rintro ⟨s', hs', rfl, hasked', -⟩
      obtain rfl := List.mem_singleton.1 hs'
      exact ⟨hnot id, (hself id).2 (Option.some.inj (hasked'.symm.trans hasked))⟩

/-- An exchange starts where there is no token only. -/
theorem token?_of_start (hq : w.queue.IsOrderly) {l : Label} (hnot : ¬ w.IsExchanging id i)
    (h : (w.step l).IsExchanging id i) : w.token? id = none := by
  cases step_starts hq l with
  | none hold _ => exact absurd (hold id i h) hnot
  | @one n s htoken _ hself hold _ _ _ =>
    have htask : i = s.task := by
      by_contra hi
      exact hnot (hold id i hi h)
    subst htask
    rw [(hself id).1 h]
    exact htoken

/-! ## Reusable tokens -/

section
variable {w₀ : World} {labels : List Label} {e : Exchange}

theorem token?_of_reusable (he : (w₀.exchanges id labels).getLast? = some e)
    (hr : e.IsReusable (w₀.after labels).tokenClock) :
    (w₀.after labels).token? id = some e.grant.token := by
  have hkept := kept_after w₀ id labels
  rw [he] at hkept
  have h := TokenDesk.usable?_keep ((w₀.after labels).desks id) e.time
    (w₀.after labels).tokenClock e.grant
  rw [if_pos ⟨hr.1, hr.2⟩] at h
  rw [token?, ← h, TokenDesk.usable?, TokenDesk.usable?, hkept]
  rfl

/-- Who is canceled ends its call when it gets a reply. -/
theorem reply_of_canceled_call {t : Task} {call : Call} {errand : Errand} {alarm : Instant}
    (ht : w.tasks[i]? = some t) (hp : t.phase = .calling call)
    (hstage : call.stage = .reply errand alarm) (hcanceled : w.isCanceled t.scope) (r : Reply) :
    w.reply i r = w.endCall i call (.error .canceled) := by
  obtain ⟨scope, parent, rs, phase⟩ := t
  cases hp
  simp only [reply, ht, hstage, if_pos hcanceled]

/-- A reply to who waits for a token ends its exchange. -/
theorem reply_leaves (hq : w.queue.IsOrderly) (h : w.IsExchanging id i) (r : Reply) :
    ∃ new, (w.reply i r).queue = w.queue.leave (some id) i new := by
  obtain ⟨t, api, ht, hexchanging⟩ := h
  obtain ⟨call, alarm, hp, hasked, hstage⟩ := Task.exchanging?_eq_some_iff.1 hexchanging
  have hdesk : call.asked.desk? = some id := by rw [hasked]; rfl
  by_cases hcanceled : w.isCanceled t.scope
  · exact ⟨[], by rw [reply_of_canceled_call ht hp hstage hcanceled, endCall_queue, hdesk]⟩
  · cases hgrant : api.grant r with
    | ok grant =>
      obtain ⟨call', hasked', hreply⟩ := reply_of_exchange ht hexchanging hcanceled hgrant
      let v := (w.setDesk id ((w.desks id).keep w.tokenClock grant)).tell
        (TokenDesk.lineOf w.tokenClock grant)
      have hv : v.queue = w.queue := keep_queue w id w.tokenClock grant
      obtain ⟨new, -, hleaves⟩ := v.askWith_queue i (hv ▸ hq) call' api grant.token
      refine ⟨new, ?_⟩
      rw [hreply, hleaves, hv, hasked']
      rfl
    | error failure =>
      have hreply : w.reply i r = w.endCall i call (.error failure) := by
        obtain ⟨scope, parent, rs, phase⟩ := t
        cases hp
        simp only [reply, ht, hstage, if_neg hcanceled, handle, hasked, hgrant]
      exact ⟨[], by rw [hreply, endCall_queue, hdesk]⟩

/-- When an exchange ends, no other one is in progress. -/
theorem not_isExchanging_of_reply (hq : w.queue.IsOrderly) (h : w.IsExchanging id i) (r : Reply)
    (j : Nat) : ¬ (w.reply i r).IsExchanging id j := by
  obtain ⟨new, hleaves⟩ := reply_leaves hq h r
  rw [isExchanging_iff, hleaves]
  by_cases hj : j = i
  · simp [Queue.leave, hj]
  · intro hbusy
    refine hj (isExchanging_unique hq (isExchanging_iff.2 ?_) h)
    simpa [Queue.leave, setAt_of_ne _ _ hj] using hbusy

/-- While the token of the last exchange may be used, nobody waits for another one. -/
theorem not_isExchanging_of_reusable (hq : w₀.queue.IsOrderly)
    (he : (w₀.exchanges id labels).getLast? = some e)
    (hr : e.IsReusable (w₀.after labels).tokenClock) (i : Nat) :
    ¬ (w₀.after labels).IsExchanging id i := by
  induction labels using List.reverseRecOn generalizing e with
  | nil => cases he
  | append_singleton labels l ih =>
    have hq' := isOrderly_after hq labels
    rw [exchanges_snoc] at he
    rw [after_snoc] at hr ⊢
    cases hl : (w₀.after labels).exchange? l id with
    | some e' =>
      obtain ⟨t, api, rfl, ht, hexchanging, -⟩ := exchange?_eq_some_iff.1 hl
      exact not_isExchanging_of_reply hq' ⟨t, api, ht, hexchanging⟩ e'.reply i
    | none =>
      have hlast : (w₀.exchanges id labels).getLast? = some e := by simpa [hl] using he
      have hbefore := hr.of_le (tokenClock_le_step _ l)
      intro hi
      have hnone := token?_of_start hq' (ih hlast hbefore) hi
      rw [token?_of_reusable hlast hbefore] at hnone
      cases hnone

/-- While the token of the last exchange may be used, no other one is given out. -/
theorem exchanges_of_reusable (hq : w₀.queue.IsOrderly) {first later : List Label}
    (he : (w₀.exchanges id first).getLast? = some e)
    (hr : e.IsReusable (w₀.after (first ++ later)).tokenClock) :
    w₀.exchanges id (first ++ later) = w₀.exchanges id first := by
  induction later using List.reverseRecOn with
  | nil => rw [List.append_nil]
  | append_singleton later l ih =>
    rw [← List.append_assoc, after_snoc] at hr
    have hbefore := hr.of_le (tokenClock_le_step _ l)
    have hsame := ih hbefore
    have hnone : (w₀.after (first ++ later)).exchange? l id = none := by
      refine Option.eq_none_iff_forall_ne_some.2 fun e' he' => ?_
      obtain ⟨t, api, -, ht, hexchanging, -⟩ := exchange?_eq_some_iff.1 he'
      exact not_isExchanging_of_reusable hq (hsame ▸ he) hbefore e'.task ⟨t, api, ht, hexchanging⟩
    rw [← List.append_assoc, exchanges_snoc, hnone, hsame]
    simp

end

end

end World

end TailnetTargets
