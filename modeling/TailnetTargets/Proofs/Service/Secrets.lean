/-
  Secrets do not show.

  * `Upstream`: what answers requests, and `Upstream.IsBlind`: its replies do not depend on secrets;
  * `World.play`: the world after several moves against an upstream, and `Alike.play`: it stays alike
    when nothing but secrets differs;
  * `World.LooksLike`: what can be seen of two worlds is the same;
  * `Settings.Alike`: settings which differ in nothing but secrets.  They ask for sources which are
    alike (`Alike.origins_cases`), so daemons tell the same and serve sources which are alike
    (`lines_alike`, `source_alike`);
  * `looksLike_of_alike`: runs which differ in nothing but secrets look the same, for every source
    and for every daemon.
-/
import TailnetTargets.Daemon
import TailnetTargets.Proofs.Discovery.Alike

namespace TailnetTargets

/-! ## Runs against an upstream -/

/-- What answers requests: the reply to a task, by all requests so far. -/
abbrev Upstream := List Sent → Nat → Reply

/-- Whether replies do not depend on secrets. -/
def Upstream.IsBlind (up : Upstream) : Prop :=
  ∀ sent sent', List.Forall₂ Sent.Alike sent sent' → ∀ i, up sent i = up sent' i

/-- Something happens, or the upstream answers. -/
inductive Move where
  /-- something happens -/
  | happen (l : Label)
  /-- the upstream answers the request of a task -/
  | answer (task : Nat)

/-- Moves which differ in nothing but the secrets of the sources that are called. -/
inductive Move.Alike : Move → Move → Prop where
  | happen {l l' : Label} (h : l.Alike l') : Alike (.happen l) (.happen l')
  | answer (task : Nat) : Alike (.answer task) (.answer task)

theorem Move.Alike.refl : ∀ m : Move, m.Alike m
  | .happen l => .happen (.refl l)
  | .answer i => .answer i

namespace World

/-- The world after a move. -/
def move (up : Upstream) (w : World) : Move → World
  | .happen l => w.step l
  | .answer i => w.step (.reply i (up w.sent i))

/-- The world after several moves. -/
def play (up : Upstream) (w : World) (moves : List Move) : World := moves.foldl (move up) w

theorem Alike.move {up : Upstream} (hup : up.IsBlind) {w w' : World} (h : w.Alike w')
    {m m' : Move} (hm : m.Alike m') : (w.move up m).Alike (w'.move up m') := by
  cases hm with
  | happen hl => exact h.step hl
  | answer i =>
    simp only [World.move, hup _ _ h.sent i]
    exact h.step (.reply i _)

theorem Alike.play {up : Upstream} (hup : up.IsBlind) {w w' : World} (h : w.Alike w')
    {moves moves' : List Move} (hm : List.Forall₂ Move.Alike moves moves') :
    (w.play up moves).Alike (w'.play up moves') := by
  induction hm generalizing w w' with
  | nil => exact h
  | cons hm _ ih => exact ih (h.move hup hm)

end World

/-! ## What is seen -/

/-- What a request shows to those who do not know its secrets: the task, how and where something is
    asked for, and the forms of what is asked and answered. -/
def Sent.shown (s : Sent) : Nat × Request :=
  (s.task, { s.request with authorization := none, body := none })

theorem Sent.Alike.shown {s s' : Sent} (h : s.Alike s') : s.shown = s'.shown := by
  cases h with
  | localApi task socket r => rfl
  | publicApi task id h hr => exact congrArg (Prod.mk task) hr.eq_of_shown

/-- Worlds of which the same can be seen: how calls ended, what was counted and told, and requests
    which differ in nothing but what secrets put into them. -/
structure World.LooksLike (w w' : World) : Prop where
  outcomes : ∀ i, w.outcome? i = w'.outcome? i
  metrics : metricsResponse w.registry = metricsResponse w'.registry
  journal : w.journal = w'.journal
  requests : List.Forall₂ Sent.Alike w.sent w'.sent
  shown : w.sent.map Sent.shown = w'.sent.map Sent.shown

theorem World.Alike.looksLike {w w' : World} (h : w.Alike w') : w.LooksLike w' where
  outcomes := h.outcome?
  metrics := congrArg metricsResponse h.registry
  journal := h.journal
  requests := h.sent
  shown := by
    have hsent := h.sent
    generalize w.sent = sent at hsent
    generalize w'.sent = sent' at hsent
    induction hsent with
    | nil => rfl
    | cons hs _ ih => rw [List.map_cons, List.map_cons, hs.shown, ih]

/-! ## Sources of settings -/

/-- Secrets which are the same, or are both there and not empty. -/
inductive SecretAlike : Option String → Option String → Prop where
  | same (x : Option String) : SecretAlike x x
  | other {secret secret' : String} (h : secret ≠ "") (h' : secret' ≠ "") :
    SecretAlike (some secret) (some secret')

theorem SecretAlike.present_cases {x x' : Option String} (h : SecretAlike x x') :
    (Settings.present? x = none ∧ Settings.present? x' = none) ∨
      ∃ secret secret', Settings.present? x = some secret ∧ Settings.present? x' = some secret' := by
  cases h with
  | same x =>
    cases Settings.present? x with
    | none => exact Or.inl ⟨rfl, rfl⟩
    | some secret => exact Or.inr ⟨secret, secret, rfl, rfl⟩
  | @other secret secret' h h' =>
    refine Or.inr ⟨secret, secret', ?_, ?_⟩
    · simpa [Settings.present?] using h
    · simpa [Settings.present?] using h'

/-- Sources which differ in nothing but a secret. -/
inductive Origin.Alike : Origin → Origin → Prop where
  | localApi (socket : String) : Alike (.localApi socket) (.localApi socket)
  | publicApi (tailnet apiHost : String) {c c' : Credentials} (h : c.Alike c') :
    Alike (.publicApi tailnet apiHost c) (.publicApi tailnet apiHost c')

theorem Origin.Alike.refl : ∀ x : Origin, x.Alike x
  | .localApi socket => .localApi socket
  | .publicApi tailnet apiHost c => .publicApi tailnet apiHost (.refl c)

namespace Settings

/-- Settings which differ in nothing but the access token and the secret of the client. -/
structure Alike (s s' : Settings) : Prop where
  rest : { s with token := none, clientSecret := none } =
    { s' with token := none, clientSecret := none }
  token : SecretAlike s.token s'.token
  clientSecret : SecretAlike s.clientSecret s'.clientSecret

variable {s s' : Settings}

theorem Alike.localOrigins (h : s.Alike s') : s.localOrigins = s'.localOrigins :=
  congrArg (fun x => x.localOrigins) h.rest

theorem Alike.tailnet (h : s.Alike s') : s.tailnet = s'.tailnet :=
  congrArg (fun x => x.tailnet) h.rest

theorem Alike.apiHost (h : s.Alike s') : s.apiHost = s'.apiHost :=
  congrArg (fun x => x.apiHost) h.rest

theorem Alike.clientId (h : s.Alike s') : s.clientId = s'.clientId :=
  congrArg (fun x => x.clientId) h.rest

theorem Alike.pollLimit (h : s.Alike s') : s.pollLimit = s'.pollLimit :=
  congrArg (fun x => x.pollLimit) h.rest

theorem Alike.includeIPv6 (h : s.Alike s') : s.includeIPv6 = s'.includeIPv6 :=
  congrArg (fun x => x.includeIPv6) h.rest

theorem Alike.tokenOrigins (h : s.Alike s') :
    List.Forall₂ Origin.Alike s.tokenOrigins s'.tokenOrigins := by
  unfold Settings.tokenOrigins
  rcases h.token.present_cases with ⟨hx, hx'⟩ | ⟨token, token', hx, hx'⟩
  · rw [hx, hx']
    exact .nil
  · simp only [hx, hx', h.tailnet, h.apiHost]
    exact .cons (.publicApi _ _ (.token _ _)) .nil

theorem Alike.clientOrigins (h : s.Alike s') :
    List.Forall₂ Origin.Alike s.clientOrigins s'.clientOrigins := by
  unfold Settings.clientOrigins
  rw [h.clientId]
  cases present? s'.clientId with
  | none => exact .nil
  | some id =>
    rcases h.clientSecret.present_cases with ⟨hx, hx'⟩ | ⟨secret, secret', hx, hx'⟩
    · rw [hx, hx']
      exact .nil
    · simp only [hx, hx', h.tailnet, h.apiHost]
      exact .cons (.publicApi _ _ (.client _ _ _)) .nil

/-- Settings which differ in nothing but secrets ask for sources which do, or both for none. -/
theorem Alike.origins_cases (h : s.Alike s') :
    (∃ e, s.origins = .error e ∧ s'.origins = .error e) ∨
      ∃ l l', s.origins = .ok l ∧ s'.origins = .ok l' ∧ List.Forall₂ Origin.Alike l l' := by
  have hlocal : List.Forall₂ Origin.Alike s.localOrigins s'.localOrigins := by
    rw [h.localOrigins]
    exact List.forall₂_same.2 fun x _ => Origin.Alike.refl x
  have hall : List.Forall₂ Origin.Alike (s.localOrigins ++ s.tokenOrigins ++ s.clientOrigins)
      (s'.localOrigins ++ s'.tokenOrigins ++ s'.clientOrigins) :=
    List.rel_append (List.rel_append hlocal h.tokenOrigins) h.clientOrigins
  unfold Settings.origins
  generalize s.localOrigins ++ s.tokenOrigins ++ s.clientOrigins = l at hall
  generalize s'.localOrigins ++ s'.tokenOrigins ++ s'.clientOrigins = l' at hall
  cases hall with
  | nil => exact Or.inl ⟨_, rfl, rfl⟩
  | cons hx hrest => exact Or.inr ⟨_, _, rfl, rfl, .cons hx hrest⟩

end Settings

/-! ## Daemons -/

namespace Daemon

theorem interface_alike (id : Nat) {x x' : Origin} (h : x.Alike x') :
    (interface id x).Alike (interface id x') := by
  cases h with
  | localApi socket => exact .localApi socket
  | publicApi tailnet apiHost h => exact .publicApi id ⟨rfl, rfl, h⟩

theorem source_alike (pollLimit : Duration) {l l' : List Origin}
    (h : List.Forall₂ Origin.Alike l l') : (source pollLimit l).Alike (source pollLimit l') := by
  have hfrom : ∀ n, List.Forall₂ (fun (x y : Origin × Nat) => x.1.Alike y.1 ∧ x.2 = y.2)
      (l.zipIdx n) (l'.zipIdx n) := by
    induction h with
    | nil => exact fun n => .nil
    | cons hx _ ih => exact fun n => .cons ⟨hx, rfl⟩ (ih (n + 1))
  refine .fanOut true (List.rel_map (fun x y hxy => ?_) (hfrom 0))
  rw [hxy.2]
  exact .cached _ pollLimit true (.interface true (interface_alike _ hxy.1))

theorem originLine_alike {x x' : Origin} (h : x.Alike x') : originLine x = originLine x' := by
  cases h with
  | localApi socket => rfl
  | publicApi tailnet apiHost h => rw [originLine, originLine, h.describe]

theorem lines_alike {s s' : Settings} (h : s.Alike s') {l l' : List Origin}
    (hl : List.Forall₂ Origin.Alike l l') :
    (Ready.mk s l).lines = (Ready.mk s' l').lines := by
  have hmap : l.map originLine = l'.map originLine := by
    induction hl with
    | nil => rfl
    | cons hx _ ih => rw [List.map_cons, List.map_cons, originLine_alike hx, ih]
  simp only [Ready.lines, hmap, h.pollLimit, hl.length_eq]

end Daemon

/-! ## Services -/

/-- What happens to a service: a visitor asks for targets, or something else. -/
inductive Happening where
  /-- a visitor asks for targets -/
  | visit
  /-- something else -/
  | other (m : Move)

/-- What happens to a service as a move. -/
def Happening.move (s : Service) : Happening → Move
  | visit => .happen (.serve s.source)
  | other m => m

namespace Service

/-- The world of a service after several things happened to it. -/
def world (up : Upstream) (s : Service) (happenings : List Happening) : World :=
  World.play up {} (happenings.map (·.move s))

/-- Services of which the same can be seen, whatever happens to them. -/
structure LooksLike (up : Upstream) (s s' : Service) : Prop where
  worlds : ∀ happenings, (s.world up happenings).LooksLike (s'.world up happenings)
  pages : ∀ happenings i,
    ((s.world up happenings).outcome? i).map s.targetsResponse =
      ((s'.world up happenings).outcome? i).map s'.targetsResponse

/-- Services of sources which differ in nothing but secrets look the same. -/
theorem looksLike_of_source {up : Upstream} (hup : up.IsBlind) {s s' : Service}
    (hsource : s.source.Alike s'.source) (hfilters : s.filters = s'.filters) :
    s.LooksLike up s' := by
  have hmove : ∀ happening : Happening, (happening.move s).Alike (happening.move s') := by
    intro happening
    cases happening with
    | visit => exact .happen (.serve hsource)
    | other m => exact .refl m
  have hmoves : ∀ happenings : List Happening,
      List.Forall₂ Move.Alike (happenings.map (·.move s)) (happenings.map (·.move s')) := by
    intro happenings
    induction happenings with
    | nil => exact .nil
    | cons happening _ ih => exact .cons (hmove happening) ih
  have hworlds : ∀ happenings, (s.world up happenings).LooksLike (s'.world up happenings) :=
    fun happenings => ((World.Alike.refl {}).play hup (hmoves happenings)).looksLike
  have htargets : s.targetsResponse = s'.targetsResponse := by
    funext o
    cases o <;> simp only [targetsResponse, devicesResponse, hfilters]
  refine ⟨hworlds, fun happenings i => ?_⟩
  rw [(hworlds happenings).outcomes i, htargets]

end Service

/-- **Secrets do not show.**  Against an upstream whose replies do not depend on secrets, runs which
    differ in nothing but the secrets of sources look the same, and so do credentials.  Daemons whose
    settings differ in nothing but secrets fail for the same reason, or tell the same lines and serve
    what looks the same. -/
theorem looksLike_of_alike {up : Upstream} (hup : up.IsBlind) :
    (∀ (w : World) (moves moves' : List Move), List.Forall₂ Move.Alike moves moves' →
      (w.play up moves).LooksLike (w.play up moves')) ∧
    (∀ c c' : Credentials, c.Alike c' → c.describe = c'.describe) ∧
    ∀ s s' : Settings, s.Alike s' →
      (∃ e, s.origins = .error e ∧ s'.origins = .error e) ∨
        ∃ l l', s.origins = .ok l ∧ s'.origins = .ok l' ∧
          (Daemon.Ready.mk s l).lines = (Daemon.Ready.mk s' l').lines ∧
          (Daemon.service s l).LooksLike up (Daemon.service s' l') := by
  refine ⟨fun w moves moves' hm => ((World.Alike.refl w).play hup hm).looksLike,
    fun c c' h => h.describe, fun s s' h => ?_⟩
  rcases h.origins_cases with herror | ⟨l, l', hl, hl', halike⟩
  · exact Or.inl herror
  · refine Or.inr ⟨l, l', hl, hl', Daemon.lines_alike h halike, ?_⟩
    refine Service.looksLike_of_source hup ?_ ?_
    · rw [Daemon.service, h.pollLimit]
      exact Daemon.source_alike s'.pollLimit halike
    · simp only [Daemon.service, Service.ofSource, Daemon.filters, h.includeIPv6]

/-- Two daemons with a client and different secrets, against an upstream which turns the client
    away. -/
theorem looksLike_of_alike_client :
    let up : Upstream := fun sent _ => if sent.length = 1 then .answered 401 [] true else .refused
    let s : Settings := { clientId := some "k", clientSecret := some "one" }
    let s' : Settings := { clientId := some "k", clientSecret := some "two" }
    up.IsBlind ∧ s.Alike s' ∧ ∃ l l', s.origins = .ok l ∧ s'.origins = .ok l' ∧ l ≠ l' ∧
      (Daemon.service s l).LooksLike up (Daemon.service s' l') := by
  intro up s s'
  have hup : up.IsBlind := fun sent sent' h _ => by simp only [up, h.length_eq]
  have hs : s.Alike s' := ⟨rfl, .same none, .other (by decide) (by decide)⟩
  refine ⟨hup, hs, ?_⟩
  rcases (looksLike_of_alike hup).2.2 s s' hs with ⟨e, he, -⟩ | ⟨l, l', hl, hl', -, hlook⟩
  · cases he
  · refine ⟨l, l', hl, hl', ?_, hlook⟩
    cases hl
    cases hl'
    decide

end TailnetTargets
