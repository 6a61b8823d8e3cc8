/-
  What the call of an interface adds to the counters.

  * `World.raise` and `World.timed`: by how much a step raises what a counter shows, and how many
    latencies of an endpoint it measures.  `World.raisedBy`, `World.timedBy`: what the steps of a
    task do along a run;
  * `Notes.raise`, `Notes.timed`: they do what is noted in them;
  * `World.Stands`: how a call stands after some steps.  It waits, and has added the requests which
    it has issued; it has ended, and has added its result as well; or it was dropped.
    `stands_after`: so does every call, from the step in which it comes to its interface;
  * `World.Charged`: what a call has added which has ended (`Stands.charged`).
-/
import TailnetTargets.Proofs.Discovery.Account
import TailnetTargets.Proofs.Discovery.Exchange

namespace TailnetTargets

/-- What is filtered out adds nothing to counters which tell of requests. -/
theorem added_filter {c : Counter} (hc : c.isTraffic) (events : List Event) :
    added c (events.filter Event.isOfCall) = added c events := by
  induction events with
  | nil => rfl
  | cons e events ih =>
    rw [added_cons, List.filter_cons]
    split
    · rw [added_cons, ih]
    · next he =>
      have hnone : (e.increment?.elim 0 fun x => if c = x.1 then x.2 else 0) = 0 := by
        cases hi : e.increment? with
        | none => rfl
        | some x =>
          refine if_neg ?_
          rintro rfl
          simp [Event.isOfCall, Event.isTraffic, hi, hc] at he
      rw [ih, hnone, Nat.zero_add]

/-- What is filtered out measures no latency. -/
theorem spans_filter (endpoint : Endpoint) (events : List Event) :
    spans endpoint (events.filter Event.isOfCall) = spans endpoint events := by
  induction events with
  | nil => rfl
  | cons e events ih =>
    rw [spans_cons, List.filter_cons]
    split
    · rw [spans_cons, ih]
    · next he =>
      have hnone : e.span? = none := by
        simp only [Event.isOfCall, Bool.or_eq_true, not_or] at he
        simpa using he.2
      rw [ih, hnone]
      rfl

/-- A few requests are counted one after the other, and no counter wraps. -/
theorem added_requests_add (n : Nat) {k : Nat} (hk : k ≤ 2) (endpoint : Endpoint) (c : Counter) :
    added c (List.replicate n (.request endpoint)) +
        added c (List.replicate k (.request endpoint)) % Registry.limit =
      added c (List.replicate (n + k) (.request endpoint)) := by
  simp only [added_requests]
  split
  · rw [Nat.mod_eq_of_lt (Nat.lt_of_le_of_lt hk (by decide))]
  · rfl

theorem added_requests_charge (n : Nat) {k : Nat} (hk : k ≤ 2) (asked : Interface)
    (result : Except Failure (List Device)) (c : Counter) :
    added c (List.replicate n (.request asked.endpoint)) +
        (added c (List.replicate k (.request asked.endpoint)) + asked.charge result c) %
          Registry.limit =
      added c (List.replicate (n + k) (.request asked.endpoint)) +
        asked.charge result c % Registry.limit := by
  cases c with
  | requests endpoint =>
    -- a call which ends counts no request
    simp only [Interface.charge, Nat.add_zero, Nat.zero_mod]
    exact added_requests_add n hk _ _
  | _ => simp [added_requests]

namespace World

/-! ## What steps add -/

/-- By how much a step raises what a counter shows. -/
def raise (w : World) (l : Label) (c : Counter) : Nat :=
  ((w.step l).registry.shown c - w.registry.shown c).toNat

/-- How many latencies of an endpoint a step measures. -/
def timed (w : World) (l : Label) (endpoint : Endpoint) : Nat :=
  (w.step l).registry.samplesOf endpoint - w.registry.samplesOf endpoint

/-- The sum of what the steps of a run do. -/
def sumAlong (f : World → Label → Nat) (w : World) : List Label → Nat
  | [] => 0
  | l :: labels => f w l + sumAlong f (w.step l) labels

/-- By how much a run raises what a counter shows. -/
def raised (w : World) (c : Counter) (labels : List Label) : Nat :=
  w.sumAlong (fun w l => w.raise l c) labels

/-- By how much the steps of a task raise what a counter shows. -/
def raisedBy (w : World) (i : Nat) (c : Counter) (labels : List Label) : Nat :=
  w.sumAlong (fun w l => if l.task? = some i then w.raise l c else 0) labels

/-- How many latencies of an endpoint the steps of a task measure. -/
def timedBy (w : World) (i : Nat) (endpoint : Endpoint) (labels : List Label) : Nat :=
  w.sumAlong (fun w l => if l.task? = some i then w.timed l endpoint else 0) labels

theorem sumAlong_snoc (f : World → Label → Nat) (w : World) (labels : List Label) (l : Label) :
    w.sumAlong f (labels ++ [l]) = w.sumAlong f labels + f (w.after labels) l := by
  induction labels generalizing w with
  | nil => exact Nat.add_comm ..
  | cons l' labels ih =>
    rw [List.cons_append, sumAlong, sumAlong, ih, after_cons, Nat.add_assoc]

section
variable {w : World} {l : Label} {noted : List Event}

theorem Notes.raise (h : w.Notes (w.step l) noted) {c : Counter} (hc : c.isTraffic) :
    w.raise l c = added c noted % Registry.limit := by
  obtain ⟨events, hregistry, rfl⟩ := h
  rw [World.raise, hregistry, Registry.shown_foldl_record, added_filter hc, UInt64.add_comm,
    UInt64.add_sub_cancel]
  exact UInt64.toNat_ofNat'

theorem Notes.timed (h : w.Notes (w.step l) noted) (endpoint : Endpoint) :
    w.timed l endpoint = (spans endpoint noted).length := by
  obtain ⟨events, hregistry, rfl⟩ := h
  rw [World.timed, hregistry, Registry.samplesOf_foldl_record, spans_filter,
    Nat.add_sub_cancel_left]

end

/-! ## Steps of a task -/

/-- Nothing is counted or sent between two worlds. -/
structure Silent (w w' : World) : Prop where
  registry : w'.registry = w.registry
  sent : w'.sent = w.sent

theorem Silent.of_eq {w w' : World} (h : w' = w) : w.Silent w' := by
  subst h
  exact ⟨rfl, rfl⟩

/-- Canceling and dropping count nothing. -/
theorem step_silent {w : World} {l : Label} {i : Nat} (hl : l.task? = some i)
    (hrun : l ≠ .run i) (hreply : ∀ r, l ≠ .reply i r) : w.Silent (w.step l) := by
  cases l with
  | run j =>
    cases hl
    exact absurd rfl hrun
  | reply j r =>
    cases hl
    exact absurd rfl (hreply r)
  | cancel j =>
    rw [step, cancelTask]
    split <;> exact ⟨rfl, rfl⟩
  | drop j => exact ⟨w.drop_registry j, (w.drop_quiet j).sent⟩
  | _ => cases hl

/-- Nothing is counted for a task which is over. -/
theorem step_of_isOver {w : World} {l : Label} {i : Nat} {t : Task} (hl : l.task? = some i)
    (ht : w.tasks[i]? = some t) (hover : t.isOver) : w.Silent (w.step l) := by
  by_cases hrun : l = .run i
  · subst hrun
    exact .of_eq (run_of_isOver ht hover)
  · by_cases hreply : ∃ r, l = .reply i r
    · obtain ⟨r, rfl⟩ := hreply
      have hsame : w.reply i r = w := by
        unfold reply
        split
        · next heq =>
          cases ht.symm.trans heq
          cases hover
        · rfl
      exact .of_eq hsame
    · exact step_silent hl hrun fun r hr => hreply ⟨r, hr⟩

/-- What becomes of a call in a step of its task. -/
theorem step_proceeds {w : World} {l : Label} {i : Nat} {t : Task} {call : Call}
    (hl : l.task? = some i) (ht : w.tasks[i]? = some t) (hp : t.phase = .calling call) :
    Proceeds call w i (w.step l) ∨
      w.Silent (w.step l) ∧
        ∃ t', (w.step l).tasks[i]? = some t' ∧ (t' = t ∨ t'.phase = .dropped) := by
  have hsame (h : w.step l = w) : Proceeds call w i (w.step l) ∨ w.Silent (w.step l) ∧
      ∃ t', (w.step l).tasks[i]? = some t' ∧ (t' = t ∨ t'.phase = .dropped) :=
    Or.inr ⟨.of_eq h, t, h.symm ▸ ht, Or.inl rfl⟩
  by_cases hrun : l = .run i
  · subst hrun
    exact (run_proceeds ht hp).elim hsame Or.inl
  · by_cases hreply : ∃ r, l = .reply i r
    · obtain ⟨r, rfl⟩ := hreply
      exact (reply_proceeds ht hp r).elim hsame Or.inl
    · obtain ⟨t', ht', hm⟩ := moves_step l ht
      refine Or.inr ⟨step_silent hl hrun fun r hr => hreply ⟨r, hr⟩, t', ht', ?_⟩
      cases hm with
      | stays => exact Or.inl rfl
      | calls h => exact absurd h hrun
      | waits h => exact absurd h (not_or.2 ⟨hrun, hreply⟩)
      | ends h => exact absurd h (not_or.2 ⟨hrun, hreply⟩)
      | drops => exact Or.inr rfl

/-- What is sent in a step of another task is sent by that task. -/
theorem sentBy_step_of_ne {w : World} {l : Label} {i : Nat} (hl : l.task? ≠ some i) :
    (w.step l).sentBy i = w.sentBy i := by
  have hnot : ∀ s ∈ w.sends l, s.task ≠ i := by
    rintro s hs rfl
    cases (sends_of_mem hs).1 with
    | first hrun => exact hl (hrun ▸ rfl)
    | shows he htask =>
      obtain ⟨t, api, hreply, -⟩ := exchange?_eq_some_iff.1 he
      exact hl (by rw [hreply, ← htask]; rfl)
  have hzero : (w.sends l).countP (·.task = i) = 0 :=
    List.countP_eq_zero.2 fun s hs => by simpa using hnot s hs
  rw [sentBy, sent_step, List.countP_append, hzero]
  rfl

/-! ## Calls -/

/-- What a task has added while its call has sent some requests, and nothing else has become of
    it. -/
structure Charges (w₀ w : World) (i : Nat) (asked : Interface) (labels : List Label) (n : Nat) :
    Prop where
  sent : w.sentBy i = w₀.sentBy i + n
  raised : ∀ c, c.isTraffic →
    w₀.raisedBy i c labels = added c (List.replicate n (.request asked.endpoint))
  timed : ∀ endpoint, w₀.timedBy i endpoint labels = 0

/-- How the call of an interface behind caches stands after some steps. -/
inductive Stands (w₀ : World) (i : Nat) (asked : Interface) (rs : List Refresh)
    (labels : List Label) : Prop where
  | waits {t : Task} {call : Call} {n : Nat} (ht : (w₀.after labels).tasks[i]? = some t)
      (hp : t.phase = .calling call) (hrs : t.refreshes = rs) (hasked : call.asked = asked)
      (hmetered : call.metered) (hn : n ≤ call.stage.asked)
      (hcharges : Charges w₀ (w₀.after labels) i asked labels n)
  | ended {result : Except Failure (List Device)} {n : Nat}
      (hout : (w₀.after labels).outcome? i = some ((Outcome.ofExcept result).coveredBy rs))
      (hplain : (Outcome.ofExcept result).IsPlain) (hn : n ≤ 2)
      (hsent : (w₀.after labels).sentBy i + refusals result = w₀.sentBy i + n)
      (hraised : ∀ c, c.isTraffic → w₀.raisedBy i c labels =
        added c (List.replicate n (.request asked.endpoint)) +
          asked.charge result c % Registry.limit)
      (htimed : ∀ endpoint,
        w₀.timedBy i endpoint labels = if endpoint = asked.endpoint then 1 else 0)
  | dropped {t : Task} (ht : (w₀.after labels).tasks[i]? = some t) (hp : t.phase = .dropped)

section
variable {w₀ u : World} {i : Nat} {asked : Interface} {rs : List Refresh} {labels : List Label}
  {l : Label}

theorem raisedBy_snoc (c : Counter) : w₀.raisedBy i c (labels ++ [l]) =
    w₀.raisedBy i c labels +
      if l.task? = some i then (w₀.after labels).raise l c else 0 := sumAlong_snoc ..

theorem timedBy_snoc (endpoint : Endpoint) : w₀.timedBy i endpoint (labels ++ [l]) =
    w₀.timedBy i endpoint labels +
      if l.task? = some i then (w₀.after labels).timed l endpoint else 0 := sumAlong_snoc ..

theorem raisedBy_of_registry
    (h : l.task? = some i → ((w₀.after labels).step l).registry = (w₀.after labels).registry)
    {c : Counter} (hc : c.isTraffic) :
    w₀.raisedBy i c (labels ++ [l]) = w₀.raisedBy i c labels := by
  rw [raisedBy_snoc]
  split
  · next hl =>
    rw [(Notes.of_registry (h hl)).raise hc]
    rfl
  · rfl

theorem timedBy_of_registry
    (h : l.task? = some i → ((w₀.after labels).step l).registry = (w₀.after labels).registry)
    (endpoint : Endpoint) :
    w₀.timedBy i endpoint (labels ++ [l]) = w₀.timedBy i endpoint labels := by
  rw [timedBy_snoc]
  split
  · next hl =>
    rw [(Notes.of_registry (h hl)).timed]
    rfl
  · rfl

/-- A call stands as it stood if nothing happens to it. -/
theorem Stands.keep (h : Stands w₀ i asked rs labels)
    (htask : ((w₀.after labels).step l).tasks[i]? = (w₀.after labels).tasks[i]?)
    (hsent : ((w₀.after labels).step l).sentBy i = (w₀.after labels).sentBy i)
    (hregistry : l.task? = some i →
      ((w₀.after labels).step l).registry = (w₀.after labels).registry) :
    Stands w₀ i asked rs (labels ++ [l]) := by
  cases h with
  | waits ht hp hrs hasked hmetered hn hcharges =>
    refine .waits (by rw [after_snoc, htask, ht]) hp hrs hasked hmetered hn ⟨?_, ?_, ?_⟩
    · rw [after_snoc, hsent, hcharges.sent]
    · exact fun c hc => by rw [raisedBy_of_registry hregistry hc, hcharges.raised c hc]
    · exact fun e => by rw [timedBy_of_registry hregistry, hcharges.timed]
  | ended hout hplain hn hs hraised htimed =>
    refine .ended (by rw [after_snoc, outcome?, htask]; exact hout) hplain hn ?_ ?_ ?_
    · rw [after_snoc, hsent, hs]
    · exact fun c hc => by rw [raisedBy_of_registry hregistry hc, hraised c hc]
    · exact fun e => by rw [timedBy_of_registry hregistry, htimed]
  | dropped ht hp => exact .dropped (by rw [after_snoc, htask, ht]) hp

/-- What a call which has sent `n` requests adds when it goes on or ends. -/
theorem stands_of_proceeds {t : Task} {call : Call} {n : Nat} (hl : l.task? = some i)
    (hnotes : (w₀.after labels).Notes u []) (ht : u.tasks[i]? = some t) (hrs : t.refreshes = rs)
    (hasked : call.asked = asked) (hmetered : call.metered) (hn : n ≤ call.stage.asked)
    (hcharges : Charges w₀ u i asked labels n)
    (h : Proceeds call u i ((w₀.after labels).step l)) :
    Stands w₀ i asked rs (labels ++ [l]) := by
  subst hasked
  have hnoted : ∀ events, call.noted events = events := fun _ => if_pos hmetered
  have hself : ∀ {phase} {v : World}, v.tasks = (u.setPhase i phase).tasks →
      v.tasks[i]? = some { t with phase } := fun {phase v} hv => by
    rw [hv, setPhase, List.getElem?_modify_eq, ht]
    rfl
  cases h with
  | @waits stage requests htasks hstage hawaits hn' hsent =>
    rw [hnoted] at hn'
    have hadded := hnotes.after hn'
    have htwo : requests ≤ 2 :=
      Nat.le_trans (Nat.le_add_left ..) (Nat.le_trans hstage stage.asked_le)
    have ht' := hself htasks
    rw [← after_snoc] at ht'
    refine .waits ht' rfl hrs rfl hmetered (Nat.le_trans (Nat.add_le_add_right hn _) hstage)
      ⟨?_, fun c hc => ?_, fun e => ?_⟩
    · rw [after_snoc, hsent, hcharges.sent, Nat.add_assoc]
    · rw [raisedBy_snoc, if_pos hl, hadded.raise hc, hcharges.raised c hc]
      exact added_requests_add n htwo _ c
    · rw [timedBy_snoc, if_pos hl, hadded.timed, hcharges.timed, spans_requests]
      rfl
  | @ends result requests elapsed htasks hstage hawaits hplain hn' hsent =>
    rw [hnoted] at hn'
    have hadded := hnotes.after hn'
    refine .ended ?_ hplain (Nat.le_trans (Nat.add_le_add_right hn _) hstage) ?_
      (fun c hc => ?_) fun e => ?_
    · rw [after_snoc, outcome?, hself htasks, refreshesOf_eq ht, hrs]
      rfl
    · rw [after_snoc, hsent, hcharges.sent, Nat.add_assoc]
    · rw [raisedBy_snoc, if_pos hl, hadded.raise hc, hcharges.raised c hc]
      rw [added_append, added_closing]
      exact added_requests_charge n (Nat.le_trans (Nat.le_add_left ..) hstage) _ _ c
    · rw [timedBy_snoc, if_pos hl, hadded.timed, hcharges.timed, spans_append, spans_requests,
        spans_closing]
      split <;> rfl

theorem Stands.exists_task (h : Stands w₀ i asked rs labels) :
    ∃ t, (w₀.after labels).tasks[i]? = some t := by
  cases h with
  | waits ht => exact ⟨_, ht⟩
  | ended hout =>
    obtain ⟨t, ht, -⟩ := Option.bind_eq_some_iff.1 hout
    exact ⟨t, ht⟩
  | dropped ht => exact ⟨_, ht⟩

/-- A call stands as it stood if its task is over. -/
theorem Stands.of_isOver (h : Stands w₀ i asked rs labels) {t : Task} (hl : l.task? = some i)
    (ht : (w₀.after labels).tasks[i]? = some t) (hover : t.isOver) :
    Stands w₀ i asked rs (labels ++ [l]) := by
  have hsilent := step_of_isOver hl ht hover
  obtain ⟨t', ht', hf⟩ := follows_step _ l ht
  rw [hf.ended hover] at ht'
  exact h.keep (ht'.trans ht.symm) (by rw [sentBy, hsilent.sent]; rfl) fun _ => hsilent.registry

theorem Stands.step (h : Stands w₀ i asked rs labels) (l : Label) :
    Stands w₀ i asked rs (labels ++ [l]) := by
  by_cases hl : l.task? = some i
  · have hstands := h
    cases h with
    | @waits t call n ht hp hrs hasked hmetered hn hcharges =>
      rcases step_proceeds hl ht hp with h | ⟨hsilent, t', ht', rfl | hdropped⟩
      · exact stands_of_proceeds hl (.of_registry rfl) ht hrs hasked hmetered hn hcharges h
      · exact hstands.keep (ht'.trans ht.symm) (by rw [sentBy, hsilent.sent]; rfl)
          fun _ => hsilent.registry
      · exact .dropped (by rw [after_snoc, ht']) hdropped
    | ended hout =>
      obtain ⟨t, ht, ho⟩ := Option.bind_eq_some_iff.1 hout
      exact hstands.of_isOver hl ht (isOver_of_outcome? ho)
    | dropped ht hp => exact hstands.of_isOver hl ht (by simp [Task.isOver, hp])
  · obtain ⟨t, ht⟩ := h.exists_task
    refine h.keep ?_ (sentBy_step_of_ne hl) fun hl' => absurd hl' hl
    refine tasks_step_of_ne _ (List.getElem?_eq_some_iff.1 ht).1 ?_ ?_ ?_
    · rintro rfl
      exact hl rfl
    · rintro r rfl
      exact hl rfl
    · rintro rfl
      exact hl rfl

/-- **A call stands from the step on in which it comes to its interface.** -/
theorem stands_after {t : Task} {s : Source} (ht : w₀.tasks[i]? = some t) (hs : t.phase = .ready s)
    (hrs : t.refreshes = []) (hc : w₀.Calls s rs (.interface asked true)) (rest : List Label) :
    Stands w₀ i asked rs (.run i :: rest) := by
  induction rest using List.reverseRecOn with
  | nil =>
    let u := w₀.passAll i rs
    have htu : u.tasks[i]? = some { t with refreshes := rs } := by
      rw [(w₀.passAll_agrees i rs).tasks, pushAll_task_self rs ht, hrs, List.append_nil]
    have hcharges : Charges w₀ u i asked [] 0 :=
      ⟨by rw [sentBy, passAll_sent]; rfl, fun _ _ => rfl, fun _ => rfl⟩
    exact @stands_of_proceeds w₀ u i asked rs [] (.run i) _ _ 0 rfl (w₀.passAll_notes i rs) htu rfl
      rfl rfl (Nat.zero_le _) hcharges (run_begins ht hs hc)
  | append_singleton rest l ih => exact ih.step l

end

/-! ## Calls which have ended -/

theorem sentBy_le_after (w : World) (i : Nat) (labels : List Label) :
    w.sentBy i ≤ (w.after labels).sentBy i := by
  induction labels generalizing w with
  | nil => exact Nat.le_refl _
  | cons l labels ih =>
    refine Nat.le_trans ?_ (ih (w.step l))
    rw [sentBy, sentBy, sent_step, List.countP_append]
    exact Nat.le_add_right ..

/-- How many requests a call has issued which has ended: those which its task has sent along a run,
    and the one which could not be put together. -/
def issuedBy (w : World) (i : Nat) (result : Except Failure (List Device)) (labels : List Label) :
    Nat :=
  (w.after labels).sentBy i - w.sentBy i + refusals result

/-- What a call has added to the counters and to the latencies along a run in which it ended. -/
structure Charged (w : World) (i : Nat) (asked : Interface) (result : Except Failure (List Device))
    (labels : List Label) : Prop where
  issued_le : w.issuedBy i result labels ≤ 2
  requests : ∀ endpoint, w.raisedBy i (.requests endpoint) labels =
    if endpoint = asked.endpoint then w.issuedBy i result labels else 0
  requestErrors : ∀ endpoint, w.raisedBy i (.requestErrors endpoint) labels =
    if endpoint = asked.endpoint then requestErrors result else 0
  payloadErrors : ∀ endpoint, w.raisedBy i (.payloadErrors endpoint) labels =
    if endpoint = asked.endpoint then payloadErrors result else 0
  devicesFound : ∀ tailnet, w.raisedBy i (.devicesFound tailnet) labels =
    asked.discovered tailnet result % Registry.limit
  latencies : ∀ endpoint, w.timedBy i endpoint labels = if endpoint = asked.endpoint then 1 else 0

/-- A call which has ended has added what it issued and how it ended, once. -/
theorem Stands.charged {w₀ : World} {i : Nat} {asked : Interface} {rs : List Refresh}
    {labels : List Label} (h : Stands w₀ i asked rs labels) {o : Outcome}
    (ho : (w₀.after labels).outcome? i = some o) :
    ∃ result, o = (Outcome.ofExcept result).coveredBy rs ∧ (Outcome.ofExcept result).IsPlain ∧
      Charged w₀ i asked result labels := by
  cases h with
  | waits ht hp => simp [outcome?, ht, Task.outcome?, hp] at ho
  | dropped ht hp => simp [outcome?, ht, Task.outcome?, hp] at ho
  | @ended result n hout hplain hn hsent hraised htimed =>
    have hissued : w₀.issuedBy i result labels = n := by
      have hle := w₀.sentBy_le_after i labels
      unfold issuedBy
      omega
    have herrors := errors_le_one result
    have hsmall : ∀ {k : Nat}, k ≤ 1 → k % Registry.limit = k := fun hk =>
      Nat.mod_eq_of_lt (Nat.lt_of_le_of_lt hk (by decide))
    have hrest : ∀ {c : Counter}, c.isTraffic → (∀ endpoint, c ≠ .requests endpoint) →
        w₀.raisedBy i c labels = asked.charge result c % Registry.limit := fun hc hne => by
      rw [hraised _ hc, added_requests, if_neg (hne _), Nat.zero_add]
    refine ⟨result, Option.some.inj (ho.symm.trans hout), hplain, hissued ▸ hn, fun endpoint => ?_,
      fun endpoint => ?_, fun endpoint => ?_, fun tailnet => ?_, htimed⟩
    · rw [hraised _ rfl, hissued]
      simp [added_requests, Interface.charge]
    · rw [hrest rfl (by simp), Interface.charge]
      split
      · exact hsmall (Nat.le_trans (Nat.le_add_right ..) herrors)
      · rfl
    · rw [hrest rfl (by simp), Interface.charge]
      split
      · exact hsmall (Nat.le_trans (Nat.le_add_left ..) herrors)
      · rfl
    · exact hrest rfl (by simp)

end World

end TailnetTargets
