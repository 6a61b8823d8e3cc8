/-
  Calls which are canceled before they are made, as visitors see them.

  * `Source.HasInterface`: a source of which an interface is a part;
  * `Service.status_of_declines`: when no cache of such a source holds devices, visitors whose call
    is canceled are answered with a failure;
  * `World.EndsCanceled`: calls which are canceled before they are made end with just that;
  * `declined`: they end as their caches let them;
  * `cachedNode`, `hit`, `lapsed`: a cache which holds devices when a call is canceled, fresh ones or
    others, and hands them out (`not_endsCanceled`);
  * `cold`: the same cache when it holds none.
-/
import TailnetTargets.Proofs.Discovery.Decline
import TailnetTargets.Proofs.Service.Targets

namespace TailnetTargets

/-! ## Failures which are not covered -/

namespace Source

/-- Whether an interface is part of a source. -/
def HasInterface (s : Source) : Prop := ∃ asked metered, (interface asked metered).Within s

/-- Whether no cache which is part of a source is found with devices. -/
def FoundEmpty (s : Source) (finds : Nat → Cache.Reading → Prop) : Prop :=
  ∀ id frequency metered inner reading, (cached id frequency metered inner).Within s →
    finds id reading → reading = .expired none

theorem FoundEmpty.of_within {s part : Source} {finds : Nat → Cache.Reading → Prop}
    (h : s.FoundEmpty finds) (hw : part.Within s) : part.FoundEmpty finds :=
  fun id frequency metered inner reading h' => h id frequency metered inner reading (h'.trans hw)

/-- What a canceled call fails with is covered by nothing but what caches hold. -/
theorem Declines.exists_not_stale {finds : Nat → Cache.Reading → Prop} {s : Source} {o : Outcome}
    (h : s.Declines finds o) (hs : s.HasInterface) (hempty : s.FoundEmpty finds) :
    ∃ f, o = .failed f ∧ ¬ f.isStale := by
  obtain ⟨asked, metered, hw⟩ := hs
  induction h with
  | givesUp => exact ⟨_, rfl, by simp [Failure.isStale]⟩
  | fresh hr => cases hempty _ _ _ _ _ .self hr
  | expired hr _ ih =>
    cases hempty _ _ _ _ _ .self hr
    cases hw with
    | behind hw =>
      obtain ⟨f, rfl, hf⟩ := ih (hempty.of_within (.behind .self)) hw
      exact ⟨f, rfl, hf⟩
  | @joint metered members slots hlen _ ih =>
    cases hw with
    | member hm hw =>
      obtain ⟨k, hk, rfl⟩ := List.getElem_of_mem hm
      have hk' : k < slots.length := hlen ▸ hk
      obtain ⟨f, hslot, hf⟩ := ih k hk hk' (hempty.of_within (.member hm .self)) hw
      obtain ⟨devices, causes, heq, hmem⟩ :=
        Outcome.merge_of_failed (hslot ▸ List.getElem_mem hk' : .failed f ∈ slots)
      refine ⟨_, heq, fun hstale => hf ?_⟩
      rw [Failure.isStale, Bool.and_eq_true, Failure.allStale_iff] at hstale
      exact hstale.2 f hmem

end Source

/-- Whoever's call is canceled when no cache holds devices is answered with a failure. -/
theorem Service.status_of_declines (service : Service) {finds : Nat → Cache.Reading → Prop}
    {s : Source} {o : Outcome} (h : s.Declines finds o) (hs : s.HasInterface)
    (hempty : s.FoundEmpty finds) :
    ∃ response, service.targetsResponse o = .ok response ∧ response.status = 500 := by
  obtain ⟨f, rfl, hf⟩ := h.exists_not_stale hs hempty
  exact ⟨_, rfl, by rw [if_neg hf]; rfl⟩

namespace World

/-! ## Calls which are canceled before they are made -/

/-- All calls which are canceled before they are made end with just that. -/
def EndsCanceled (w₀ : World) (labels : List Label) : Prop :=
  ∀ (before later : List Label) (i : Nat) (t : Task) (s : Source) (o : Outcome),
    labels = before ++ later → (w₀.after before).tasks[i]? = some t → t.phase = .ready s →
    s.IsComposed → (w₀.after before).isCanceled t.scope → (w₀.after labels).outcome? i = some o →
    o = .failed .canceled

/-- **A call which was canceled before it was made ends as its caches let it.**  It ends without any
    reply.  Interfaces give up, but a fresh cache answers all the same, and an expired one covers
    the failure with the devices which it holds; joint sources join what is left.  Nothing fails
    but what was canceled, and an interface alone ends with just that.  Visitors are answered with a
    failure if some interface is asked and no cache holds devices. -/
theorem declined {w₀ : World} (hw : w₀.tasks = []) {before : List Label} {i : Nat} {t : Task}
    {s : Source} (ht : (w₀.after before).tasks[i]? = some t) (hs : t.phase = .ready s)
    (hcomposed : s.IsComposed) (hcanceled : (w₀.after before).isCanceled t.scope)
    (later : List Label) :
    ((∀ u, (w₀.after (before ++ later)).tasks[i]? = some u → u.phase ≠ .dropped) →
      ∃ more, (∀ l ∈ more, ∃ j, l = .run j) ∧
        ∃ o, (w₀.after (before ++ later ++ more)).outcome? i = some o) ∧
    ∀ o, (w₀.after (before ++ later)).outcome? i = some o →
      s.Declines ((w₀.after before).Finds later) o ∧ o.FailsOnlyCanceled ∧
      (∀ asked metered, s = .interface asked metered → o = .failed .canceled) ∧
      (s.HasInterface → s.FoundEmpty ((w₀.after before).Finds later) →
        (∃ f, o = .failed f) ∧ ∀ service : Service, ∃ response,
          service.targetsResponse o = .ok response ∧ response.status = 500) := by
  have hrs := refreshes_of_isReady hw before ht (Task.isReady_iff.2 ⟨s, hs⟩)
  rw [after_append]
  constructor
  · intro hnot
    obtain ⟨more, hruns, o, ho⟩ := endsWhenCanceled s _ i t later ht hs hcomposed hcanceled hnot
    exact ⟨more, hruns, o, by rw [List.append_assoc, after_append]; exact ho⟩
  · intro o ho
    have h := declinesWhenCanceled s _ i t later o ht hs hrs hcomposed hcanceled ho
    refine ⟨h, h.failsOnlyCanceled, ?_, fun hasks hempty => ⟨?_, fun service => ?_⟩⟩
    · rintro asked metered rfl
      cases h
      rfl
    · obtain ⟨f, hf, -⟩ := h.exists_not_stale hasks hempty
      exact ⟨f, hf⟩
    · exact service.status_of_declines h hasks hempty

/-! ## The local node behind a cache -/

/-- The local node behind a cache. -/
def cachedNode : Source := .cached 0 (.ofSeconds 60) false localNode

theorem cachedNode_isComposed : cachedNode.IsComposed := by
  intro id h
  rcases h with _ | h
  cases h

/-- A call which is answered, and another one which is canceled before it is made. -/
def hit : List Label := [.call cachedNode, .run 0, .reply 0 alone, .call cachedNode, .cancel 1]

/-- The same, when a minute has passed. -/
def lapsed : List Label := hit ++ [.advance (.ofSeconds 60)]

/-- Whether visitors who make a call are told of no failure. -/
def EndsServed (w₀ : World) (labels : List Label) (i : Nat) : Prop :=
  ∃ o, (w₀.after labels).outcome? i = some o ∧ ∀ service : Service, ∃ response,
    service.targetsResponse o = .ok response ∧ response.status = 200

/-- The cache answers as if nothing was canceled, or it hands out what it holds. -/
theorem not_endsCanceled :
    (¬ ({} : World).EndsCanceled (hit ++ [.run 1]) ∧
      ({} : World).EndsServed (hit ++ [.run 1]) 1) ∧
    ¬ ({} : World).EndsCanceled (lapsed ++ [.run 1]) ∧
      ({} : World).EndsServed (lapsed ++ [.run 1]) 1 := by
  refine ⟨⟨fun h => ?_, _, rfl, fun service => ⟨_, rfl, rfl⟩⟩,
    fun h => ?_, _, rfl, fun service => ⟨_, rfl, rfl⟩⟩
  · cases h hit [.run 1] 1 _ _ _ rfl rfl rfl cachedNode_isComposed rfl rfl
  · cases h lapsed [.run 1] 1 _ _ _ rfl rfl rfl cachedNode_isComposed rfl rfl

/-- The first call, which is canceled before it is made. -/
def cold : List Label := [.call cachedNode, .cancel 0]

theorem cachedNode_foundEmpty :
    cachedNode.FoundEmpty ((({} : World).after cold).Finds [.run 0]) := by
  intro id frequency metered inner reading hin hfinds
  obtain ⟨first, rest, hsplit, rfl⟩ := hfinds
  rcases hin with _ | hin
  · match first with
    | [] => rfl
    | [l] =>
      obtain ⟨rfl, -⟩ := List.cons.inj hsplit
      rfl
    | _ :: _ :: _ => cases hsplit
  · cases hin

theorem declined_cold : ∃ o, (({} : World).after (cold ++ [.run 0])).outcome? 0 = some o ∧
    o.FailsOnlyCanceled ∧ ∀ service : Service, ∃ response,
      service.targetsResponse o = .ok response ∧ response.status = 500 := by
  obtain ⟨-, h⟩ := @declined {} rfl cold 0 _ _ rfl rfl cachedNode_isComposed rfl [.run 0]
  obtain ⟨-, honly, -, hfails⟩ := h _ rfl
  have hasks : cachedNode.HasInterface := ⟨_, _, .behind .self⟩
  exact ⟨_, rfl, honly, (hfails hasks cachedNode_foundEmpty).2⟩

end World

end TailnetTargets
