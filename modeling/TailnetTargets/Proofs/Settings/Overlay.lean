/-
  Settings out of options and a file.

  * `Setting.listen` and the others: the settings which a file can give, each with its key
    (`isGiven_listen` and the others);
  * `Settings.IsDocument`: the document which options name, or an empty one if they name none;
  * `Settings.Overlays`: settings are what the options say, or else the document, or else their
    defaults;
  * `Settings.Wants`: the sources which settings ask for, and `Origin.rank`: their order;
  * `Settings.ofOptions_overlays`: options and a document which can be read give such settings, with
    the sources which they ask for, in their order.
-/
import TailnetTargets.Proofs.Settings.File
import TailnetTargets.Settings.Options

namespace TailnetTargets

/-! ## What values mean -/

namespace Toml

/-- The text which a value is. -/
def text? : Toml → Option String
  | text s => some s
  | _ => none

/-- The truth value which a value is. -/
def bool? : Toml → Option Bool
  | bool b => some b
  | _ => none

/-- The span of time which a value writes. -/
def duration? : Toml → Option Duration
  | text s => Duration.ofText? s
  | _ => none

end Toml

/-! ## The settings which a file can give -/

namespace Setting

def listen : Setting String := ⟨"api", "listen", (·.listen), Toml.text?⟩

def pollLimit : Setting Duration := ⟨"discovery", "poll_limit", (·.pollLimit), Toml.duration?⟩

def includeIPv6 : Setting Bool := ⟨"discovery", "include_ipv6", (·.includeIPv6), Toml.bool?⟩

def localApi : Setting Bool := ⟨"tailscale", "local_api", (·.localApi), Toml.bool?⟩

def localSocket : Setting String := ⟨"tailscale", "local_api_socket", (·.localSocket), Toml.text?⟩

def tailnet : Setting String := ⟨"tailscale", "tailnet", (·.tailnet), Toml.text?⟩

def token : Setting (Option String) :=
  ⟨"tailscale", "token", (·.token), fun v => v.text?.map some⟩

def clientId : Setting (Option String) :=
  ⟨"tailscale", "client_id", (·.clientId), fun v => v.text?.map some⟩

def clientSecret : Setting (Option String) :=
  ⟨"tailscale", "client_secret", (·.clientSecret), fun v => v.text?.map some⟩

def apiHost : Setting String := ⟨"tailscale", "api_host", (·.apiHost), Toml.text?⟩

theorem isGiven_listen : listen.IsGiven where
  own := ⟨_, _, rfl, rfl, fun v s => by cases v <;> rfl, fun s => rfl⟩
  other := by
    simp [Section.all, Section.api, Section.discovery, Section.tailscale, listen, -Prod.forall]

theorem isGiven_pollLimit : pollLimit.IsGiven where
  own := by
    refine ⟨_, _, rfl, rfl, fun v s => ?_, fun s => rfl⟩
    cases v with
    | text x =>
      show ((Duration.ofText? x).map _).map _ = Duration.ofText? x
      cases Duration.ofText? x <;> rfl
    | _ => rfl
  other := by
    simp [Section.all, Section.api, Section.discovery, Section.tailscale, pollLimit, -Prod.forall]

theorem isGiven_includeIPv6 : includeIPv6.IsGiven where
  own := ⟨_, _, rfl, rfl, fun v s => by cases v <;> rfl, fun s => rfl⟩
  other := by
    simp [Section.all, Section.api, Section.discovery, Section.tailscale, includeIPv6, -Prod.forall]

theorem isGiven_localApi : localApi.IsGiven where
  own := ⟨_, _, rfl, rfl, fun v s => by cases v <;> rfl, fun s => rfl⟩
  other := by
    simp [Section.all, Section.api, Section.discovery, Section.tailscale, localApi, -Prod.forall]

theorem isGiven_localSocket : localSocket.IsGiven where
  own := ⟨_, _, rfl, rfl, fun v s => by cases v <;> rfl, fun s => rfl⟩
  other := by
    simp [Section.all, Section.api, Section.discovery, Section.tailscale, localSocket, -Prod.forall]

theorem isGiven_tailnet : tailnet.IsGiven where
  own := ⟨_, _, rfl, rfl, fun v s => by cases v <;> rfl, fun s => rfl⟩
  other := by
    simp [Section.all, Section.api, Section.discovery, Section.tailscale, tailnet, -Prod.forall]

theorem isGiven_token : token.IsGiven where
  own := ⟨_, _, rfl, rfl, fun v s => by cases v <;> rfl, fun s => rfl⟩
  other := by
    simp [Section.all, Section.api, Section.discovery, Section.tailscale, token, -Prod.forall]

theorem isGiven_clientId : clientId.IsGiven where
  own := ⟨_, _, rfl, rfl, fun v s => by cases v <;> rfl, fun s => rfl⟩
  other := by
    simp [Section.all, Section.api, Section.discovery, Section.tailscale, clientId, -Prod.forall]

theorem isGiven_clientSecret : clientSecret.IsGiven where
  own := ⟨_, _, rfl, rfl, fun v s => by cases v <;> rfl, fun s => rfl⟩
  other := by
    simp [Section.all, Section.api, Section.discovery, Section.tailscale, clientSecret, -Prod.forall]

theorem isGiven_apiHost : apiHost.IsGiven where
  own := ⟨_, _, rfl, rfl, fun v s => by cases v <;> rfl, fun s => rfl⟩
  other := by
    simp [Section.all, Section.api, Section.discovery, Section.tailscale, apiHost, -Prod.forall]

end Setting

/-! ## Sources -/

/-- The place of a source among those which settings ask for. -/
def Origin.rank : Origin → Nat
  | localApi _ => 0
  | publicApi _ _ (.token _) => 1
  | publicApi _ _ (.client _ _) => 2

namespace Settings

/-- The sources which settings ask for. -/
inductive Wants (s : Settings) : Origin → Prop where
  | localApi (h : s.localApi = true) : s.Wants (.localApi s.localSocket)
  | token {token : String} (h : s.token = some token) (hne : token ≠ "") :
    s.Wants (.publicApi s.tailnet s.apiHost (.token token))
  | client {id secret : String} (hid : s.clientId = some id) (hidNe : id ≠ "")
    (hsecret : s.clientSecret = some secret) (hsecretNe : secret ≠ "") :
    s.Wants (.publicApi s.tailnet s.apiHost (.client id secret))

theorem present?_eq_some {x : Option String} {text : String} :
    present? x = some text ↔ x = some text ∧ text ≠ "" := by
  simp [present?]

theorem mem_tokenOrigins {s : Settings} {x : Origin} :
    x ∈ s.tokenOrigins ↔
      ∃ token, (s.token = some token ∧ token ≠ "") ∧
        x = .publicApi s.tailnet s.apiHost (.token token) := by
  simp only [← present?_eq_some, tokenOrigins]
  cases present? s.token <;> simp

theorem mem_clientOrigins {s : Settings} {x : Origin} :
    x ∈ s.clientOrigins ↔
      ∃ id secret, (s.clientId = some id ∧ id ≠ "") ∧
        (s.clientSecret = some secret ∧ secret ≠ "") ∧
        x = .publicApi s.tailnet s.apiHost (.client id secret) := by
  simp only [← present?_eq_some, clientOrigins]
  cases present? s.clientId <;> cases present? s.clientSecret <;> simp

theorem mem_localOrigins {s : Settings} {x : Origin} :
    x ∈ s.localOrigins ↔ s.localApi = true ∧ x = .localApi s.localSocket := by
  rw [localOrigins]
  split <;> simp [*]

/-- The sources of settings, of which there may be none. -/
def allOrigins (s : Settings) : List Origin := s.localOrigins ++ s.tokenOrigins ++ s.clientOrigins

theorem mem_allOrigins {s : Settings} {x : Origin} : x ∈ s.allOrigins ↔ s.Wants x := by
  simp only [allOrigins, List.mem_append, mem_localOrigins, mem_tokenOrigins, mem_clientOrigins]
  constructor
  · rintro ((⟨h, rfl⟩ | ⟨token, ⟨h, hne⟩, rfl⟩) | ⟨id, secret, ⟨hid, hidNe⟩, ⟨hs, hsNe⟩, rfl⟩)
    · exact .localApi h
    · exact .token h hne
    · exact .client hid hidNe hs hsNe
  · rintro (h | ⟨h, hne⟩ | ⟨hid, hidNe, hs, hsNe⟩)
    · exact .inl (.inl ⟨h, rfl⟩)
    · exact .inl (.inr ⟨_, ⟨h, hne⟩, rfl⟩)
    · exact .inr ⟨_, _, ⟨hid, hidNe⟩, ⟨hs, hsNe⟩, rfl⟩

theorem pairwise_allOrigins (s : Settings) :
    s.allOrigins.Pairwise fun x y => x.rank < y.rank := by
  rw [allOrigins, localOrigins, tokenOrigins, clientOrigins]
  repeat' split
  all_goals simp [Origin.rank]

/-- Whether the sources of settings are those which they ask for, in their order. -/
structure HasWantedOrigins (s : Settings) : Prop where
  none_iff : s.origins = .error .noOrigin ↔ ∀ x, ¬ s.Wants x
  some_of_ok : ∀ l, s.origins = .ok l →
    (l.Pairwise fun x y => x.rank < y.rank) ∧ ∀ x, x ∈ l ↔ s.Wants x

theorem hasWantedOrigins (s : Settings) : s.HasWantedOrigins := by
  have hmem := fun x => mem_allOrigins (s := s) (x := x)
  have hpairwise := s.pairwise_allOrigins
  cases hall : s.allOrigins with
  | nil =>
    have horigins : s.origins = .error .noOrigin := by
      unfold allOrigins at hall
      simp only [origins, hall]
    rw [hall] at hmem
    refine ⟨⟨fun _ x h => ?_, fun _ => horigins⟩, fun l hl => ?_⟩
    · exact List.not_mem_nil ((hmem x).2 h)
    · rw [horigins] at hl
      cases hl
  | cons x rest =>
    have horigins : s.origins = .ok (x :: rest) := by
      unfold allOrigins at hall
      simp only [origins, hall]
    rw [hall] at hmem hpairwise
    refine ⟨⟨fun h => ?_, fun h => ?_⟩, fun l hl => ?_⟩
    · rw [horigins] at h
      cases h
    · exact absurd ((hmem x).1 List.mem_cons_self) (h x)
    · rw [horigins] at hl
      cases hl
      exact ⟨hpairwise, hmem⟩

/-! ## Options over a file -/

/-- The document which options name, or an empty one if they name none. -/
inductive IsDocument (files : String → Option ByteArray) :
    Option String → List (String × Toml) → Prop where
  | none : IsDocument files none []
  | file {path : String} {bytes : ByteArray} {text : String} {doc : List (String × Toml)}
    (hbytes : files path = some bytes) (htext : String.fromUTF8? bytes = some text)
    (hdoc : Toml.ofText? text = some doc) : IsDocument files (some path) doc

variable {files : String → Option ByteArray} {o : Options} {doc : List (String × Toml)}

/-- Options and a document which can be read give the settings of the document, overridden by the
    options. -/
theorem exists_ofOptions (hfile : IsDocument files o.config doc) (hread : IsReadable doc) :
    ∃ s : Settings, ofOptions files o = .ok (s.override o) ∧
      ∀ (β : Type) (st : Setting β), st.IsGiven →
        st.field s = (st.inFile? doc).getD (st.field {}) := by
  rw [ofOptions]
  generalize o.config = config at hfile
  cases hfile with
  | none =>
    refine ⟨{}, rfl, fun β st h => ?_⟩
    obtain ⟨keys, -, hall, -⟩ := h.own
    simp [Setting.inFile?, value?, hall]
  | file hbytes htext hdoc =>
    obtain ⟨s, hs⟩ := exists_ofToml? hdoc hread
    refine ⟨s, ?_, fun β st h => h.field_ofText? hdoc hs⟩
    simp [ofFile, hbytes, htext, hs, Except.map]

/-- A text which a document has for a key of a table. -/
def textOf? (doc : List (String × Toml)) (table key : String) : Option String :=
  (value? doc table key).bind Toml.text?

/-- A truth value which a document has for a key of a table. -/
def boolOf? (doc : List (String × Toml)) (table key : String) : Option Bool :=
  (value? doc table key).bind Toml.bool?

/-- A span of time which a document has for a key of a table. -/
def durationOf? (doc : List (String × Toml)) (table key : String) : Option Duration :=
  (value? doc table key).bind Toml.duration?

/-- Whether settings are what options say, or else a document, or else their defaults. -/
structure Overlays (s : Settings) (o : Options) (doc : List (String × Toml)) : Prop where
  listen : s.listen = (o.address.or (textOf? doc "api" "listen")).getD "0.0.0.0:9242"
  pollLimit :
    s.pollLimit = (o.poll.or (durationOf? doc "discovery" "poll_limit")).getD (.ofSeconds 300)
  includeIPv6 : s.includeIPv6 = (o.ipv6 || (boolOf? doc "discovery" "include_ipv6").getD false)
  localApi : s.localApi = (o.localApi || (boolOf? doc "tailscale" "local_api").getD false)
  localSocket : s.localSocket =
    (o.localSocket.or (textOf? doc "tailscale" "local_api_socket")).getD
      "/run/tailscale/tailscaled.sock"
  tailnet : s.tailnet = (o.tailnet.or (textOf? doc "tailscale" "tailnet")).getD "-"
  token : s.token = o.token.or (textOf? doc "tailscale" "token")
  clientId : s.clientId = o.clientId.or (textOf? doc "tailscale" "client_id")
  clientSecret : s.clientSecret = o.clientSecret.or (textOf? doc "tailscale" "client_secret")
  apiHost : s.apiHost = (o.apiHost.or (textOf? doc "tailscale" "api_host")).getD "api.tailscale.com"

theorem getD_or {α : Type} (x y : Option α) (d : α) : (x.or y).getD d = x.getD (y.getD d) := by
  cases x <;> rfl

theorem getD_bind_map_some {α β : Type} (x : Option α) (f : α → Option β) :
    (x.bind fun a => (f a).map some).getD none = x.bind f := by
  cases x with
  | none => rfl
  | some a => cases h : f a <;> simp [h]

theorem overlays_override {s : Settings} (h : ∀ (β : Type) (st : Setting β), st.IsGiven →
    st.field s = (st.inFile? doc).getD (st.field {})) : (s.override o).Overlays o doc where
  listen := by
    rw [getD_or]
    exact congrArg o.address.getD (h _ _ Setting.isGiven_listen)
  pollLimit := by
    rw [getD_or]
    exact congrArg o.poll.getD (h _ _ Setting.isGiven_pollLimit)
  includeIPv6 := by
    rw [Bool.or_comm]
    exact congrArg (· || o.ipv6) (h _ _ Setting.isGiven_includeIPv6)
  localApi := by
    rw [Bool.or_comm]
    exact congrArg (· || o.localApi) (h _ _ Setting.isGiven_localApi)
  localSocket := by
    rw [getD_or]
    exact congrArg o.localSocket.getD (h _ _ Setting.isGiven_localSocket)
  tailnet := by
    rw [getD_or]
    exact congrArg o.tailnet.getD (h _ _ Setting.isGiven_tailnet)
  token := by
    have hs := h _ _ Setting.isGiven_token
    rw [Setting.inFile?, Setting.token, getD_bind_map_some] at hs
    exact congrArg o.token.or hs
  clientId := by
    have hs := h _ _ Setting.isGiven_clientId
    rw [Setting.inFile?, Setting.clientId, getD_bind_map_some] at hs
    exact congrArg o.clientId.or hs
  clientSecret := by
    have hs := h _ _ Setting.isGiven_clientSecret
    rw [Setting.inFile?, Setting.clientSecret, getD_bind_map_some] at hs
    exact congrArg o.clientSecret.or hs
  apiHost := by
    rw [getD_or]
    exact congrArg o.apiHost.getD (h _ _ Setting.isGiven_apiHost)

/-- A table which is absent or empty has no value for any key. -/
theorem value?_of_absent {table : String}
    (h : doc.lookup table = none ∨ doc.lookup table = some (.table [])) (key : String) :
    value? doc table key = none := by
  unfold value?
  cases Section.all.lookup table with
  | none => rfl
  | some keys => obtain h | h := h <;> simp [h, Section.entriesOf?]

/-- **Every setting is what the options say, or else the file, or else the default**, and the sources
    are those which the settings ask for, in their order.  The file may lack any table and any key,
    and may have others.  A table without entries says no more than one which is absent. -/
theorem ofOptions_overlays (hfile : IsDocument files o.config doc) (hread : IsReadable doc) :
    ∃ s, ofOptions files o = .ok s ∧ s.Overlays o doc ∧ s.HasWantedOrigins ∧
      ∀ table, doc.lookup table = none ∨ doc.lookup table = some (.table []) →
        ∀ key, value? doc table key = none := by
  obtain ⟨s, hs, hfield⟩ := exists_ofOptions hfile hread
  exact ⟨_, hs, overlays_override hfield, hasWantedOrigins _, fun table h => value?_of_absent h⟩

/-- The table, the key and the text of a document with a single text. -/
def soleText? : List (String × Toml) → Option (String × String × String)
  | [(table, .table [(key, .text v)])] => some (table, key, v)
  | _ => none

theorem eq_of_soleText? {table key v : String} (h : soleText? doc = some (table, key, v)) :
    doc = [(table, .table [(key, .text v)])] := by
  unfold soleText? at h
  split at h
  · cases h
    rfl
  · cases h

/-- A client has its identifier from a file and its secret from the options. -/
theorem ofOptions_overlays_client :
    let text := "[tailscale]\nclient_id = \"k\"\n"
    let files : String → Option ByteArray := fun _ => some text.toUTF8
    let o : Options := { config := some "/etc/targets.toml", clientSecret := some "s" }
    let doc := [("tailscale", Toml.table [("client_id", .text "k")])]
    IsDocument files o.config doc ∧ IsReadable doc ∧
      ∃ s, ofOptions files o = .ok s ∧ s.Overlays o doc ∧ s.HasWantedOrigins ∧
        ∀ table, doc.lookup table = none ∨ doc.lookup table = some (.table []) →
          ∀ key, value? doc table key = none := by
  intro text files o doc
  have htext : String.fromUTF8? text.toUTF8 = some text := dif_pos text.isValidUTF8
  have hdoc : Toml.ofText? text = some doc := by
    obtain ⟨found, hfound, hsole⟩ := Option.bind_eq_some_iff.1
      (show (Toml.ofText? text).bind soleText? = some ("tailscale", "client_id", "k") by
        decide +kernel)
    rw [hfound, eq_of_soleText? hsole]
  have hfile : IsDocument files o.config doc := .file rfl htext hdoc
  have hread : IsReadable doc := by
    intro table keys v hall hv
    obtain ⟨rfl, rfl⟩ : table = "tailscale" ∧ v = .table [("client_id", .text "k")] := by
      simpa [doc] using mem_of_lookup hv
    cases hall
    refine ⟨_, rfl, fun key k x hkey hx => ?_⟩
    obtain ⟨rfl, rfl⟩ : key = "client_id" ∧ x = .text "k" := by
      simpa using mem_of_lookup hx
    cases hkey
    rfl
  exact ⟨hfile, hread, ofOptions_overlays hfile hread⟩

end Settings

end TailnetTargets
