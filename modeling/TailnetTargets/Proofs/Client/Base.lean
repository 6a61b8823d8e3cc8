/-
  Bases of the public interface.

  * `ApiBase.trimmed`: a text without the slashes at its end;
  * `ApiBase.Asks`: the scheme and the host which a text asks for: what stands before and behind its
    first `://`, or `https` and the whole text;
  * `ApiBase.ofText_of_asks`: they make up the base, and `ofText_url`: a base asks for itself;
  * `PublicApi.atBases`: a client for which bases were asked one after the other;
  * `PublicApi.atBases_normal`: **only the last base counts, in one normal form, and every address
    which the client asks is that base and a path behind it**.
-/
import Mathlib.Data.List.DropRight
import TailnetTargets.Client.PublicApi
import TailnetTargets.Discovery.Source
import TailnetTargets.Metrics.Exposition
import TailnetTargets.Proofs.Json.Members

namespace TailnetTargets

namespace ApiBase

/-! ## Slashes at the end -/

/-- A text without the slashes at its end. -/
def trimmed (b : String) : String := String.ofList (b.toList.rdropWhile (· = '/'))

/-- Some slashes. -/
def slashes (n : Nat) : String := String.ofList (List.replicate n '/')

theorem trimSlashes_eq (cs : List Char) : trimSlashes cs = cs.rdropWhile (· = '/') := rfl

theorem trimSlashes_toList (b : String) : trimSlashes b.toList = (trimmed b).toList := by
  rw [trimSlashes_eq, trimmed, String.toList_ofList]

theorem trimSlashes_append_replicate (cs : List Char) (n : Nat) :
    trimSlashes (cs ++ List.replicate n '/') = trimSlashes cs := by
  rw [trimSlashes_eq, trimSlashes_eq]
  induction n with
  | zero => simp
  | succ n ih =>
    rw [List.replicate_succ', ← List.append_assoc, List.rdropWhile_concat_pos _ _ _ (by simp), ih]

/-- Slashes are taken off behind the last other character only. -/
theorem trimSlashes_append (front : List Char) {cs : List Char} (h : ∃ c ∈ cs, c ≠ '/') :
    trimSlashes (front ++ cs) = front ++ trimSlashes cs := by
  rw [trimSlashes_eq, trimSlashes_eq]
  induction cs using List.reverseRecOn with
  | nil => simp at h
  | append_singleton cs c ih =>
    rw [← List.append_assoc]
    by_cases hc : c = '/'
    · have hcs : ∃ d ∈ cs, d ≠ '/' := by simpa [hc] using h
      rw [List.rdropWhile_concat_pos _ _ _ (by simp [hc]),
        List.rdropWhile_concat_pos _ _ _ (by simp [hc]), ih hcs]
    · rw [List.rdropWhile_concat_neg _ _ _ (by simp [hc]),
        List.rdropWhile_concat_neg _ _ _ (by simp [hc]), List.append_assoc]

theorem trimSlashes_ne_nil {cs : List Char} (h : ∃ c ∈ cs, c ≠ '/') : trimSlashes cs ≠ [] := by
  rw [trimSlashes_eq, ne_eq, List.rdropWhile_eq_nil_iff]
  simpa using h

theorem not_slash_suffix_trimSlashes (cs : List Char) : ¬ ['/'] <:+ trimSlashes cs := by
  rintro ⟨front, hfront⟩
  have hne : cs.rdropWhile (· = '/') ≠ [] := by
    rw [← trimSlashes_eq, ← hfront]
    simp
  have hlast := List.rdropWhile_last_not (· = '/') cs hne
  simp [← trimSlashes_eq, ← hfront] at hlast

theorem trimSlashes_of_not_slash_suffix {cs : List Char} (h : ¬ ['/'] <:+ cs) :
    trimSlashes cs = cs := by
  rw [trimSlashes_eq, List.rdropWhile_eq_self_iff]
  intro hne hlast
  refine h ⟨cs.dropLast, ?_⟩
  rw [← of_decide_eq_true hlast, List.dropLast_append_getLast hne]

/-! ## Schemes -/

/-- A cut before the first `://` of a text: what stands before it and behind it. -/
structure IsCut (cs scheme host : List Char) : Prop where
  eq : cs = scheme ++ "://".toList ++ host
  first : ¬ "://".toList <:+: scheme ++ ":/".toList

theorem isCut_nil (host : List Char) : IsCut (':' :: '/' :: '/' :: host) [] host where
  eq := rfl
  first := by decide

/-- A character in front of a text which is not the start of a separator goes to the scheme. -/
theorem IsCut.cons {cs scheme host : List Char} (h : IsCut cs scheme host) {c : Char}
    (hc : ¬ "://".toList <+: c :: cs) : IsCut (c :: cs) (c :: scheme) host where
  eq := by rw [h.eq]; rfl
  first := by
    rw [List.cons_append, List.infix_cons_iff]
    rintro (hhead | htail)
    · refine hc (hhead.trans ?_)
      rw [h.eq]
      exact ⟨'/' :: host, by simp⟩
    · exact h.first htail

theorem isCut_of_afterScheme? {cs host : List Char} (h : afterScheme? cs = some host) :
    ∃ scheme, IsCut cs scheme host := by
  fun_induction afterScheme? cs with
  | case1 => cases h
  | case2 rest =>
    obtain rfl := Option.some.inj h
    exact ⟨[], isCut_nil rest⟩
  | case3 c rest hc ih =>
    obtain ⟨scheme, hcut⟩ := ih h
    refine ⟨c :: scheme, hcut.cons ?_⟩
    rintro ⟨tail, htail⟩
    obtain ⟨rfl, rfl⟩ := List.cons.inj htail
    exact hc tail rfl rfl

/-- No separator starts before the cut. -/
theorem IsCut.afterScheme?_eq {cs scheme host : List Char} (h : IsCut cs scheme host) :
    afterScheme? cs = some host := by
  obtain ⟨rfl, hfirst⟩ := h
  induction scheme with
  | nil => rfl
  | cons c scheme ih =>
    rw [List.cons_append, List.infix_cons_iff, not_or] at hfirst
    rw [List.cons_append, List.cons_append, afterScheme?, ih hfirst.2]
    rintro rest rfl hrest
    have hsep : "://".toList <+: ':' :: (scheme ++ "://".toList ++ host) :=
      ⟨rest, by rw [hrest]; rfl⟩
    have hshort : ':' :: (scheme ++ ":/".toList) <+: ':' :: (scheme ++ "://".toList ++ host) :=
      ⟨'/' :: host, by simp⟩
    exact hfirst.1 (List.prefix_of_prefix_length_le hsep hshort (by simp))

theorem afterScheme?_eq_some {cs host : List Char} :
    afterScheme? cs = some host ↔ ∃ scheme, IsCut cs scheme host :=
  ⟨isCut_of_afterScheme?, fun ⟨_, h⟩ => h.afterScheme?_eq⟩

theorem afterScheme?_eq_none {cs : List Char} :
    afterScheme? cs = none ↔ ¬ "://".toList <:+: cs := by
  fun_induction afterScheme? cs with
  | case1 => decide
  | case2 rest =>
    have hhead : "://".toList <+: ':' :: '/' :: '/' :: rest := ⟨rest, rfl⟩
    simpa using hhead.isInfix
  | case3 c rest hc ih =>
    rw [ih, List.infix_cons_iff, not_or, iff_and_self]
    rintro - ⟨tail, htail⟩
    obtain ⟨rfl, rfl⟩ := List.cons.inj htail
    exact hc tail rfl rfl

/-! ## Bases -/

/-- The scheme and the host which a text asks for. -/
inductive Asks (b : String) : String → String → Prop
  /-- a scheme, which stands before the first separator -/
  | schemed {scheme host : String} (h : IsCut (trimmed b).toList scheme.toList host.toList) :
      Asks b scheme host
  /-- a host alone -/
  | bare (h : ¬ "://".toList <:+: (trimmed b).toList) : Asks b "https" (trimmed b)

theorem exists_asks (b : String) : ∃ scheme host, Asks b scheme host := by
  cases h : afterScheme? (trimmed b).toList with
  | none => exact ⟨_, _, .bare (afterScheme?_eq_none.1 h)⟩
  | some host =>
    obtain ⟨scheme, hcut⟩ := afterScheme?_eq_some.1 h
    refine ⟨String.ofList scheme, String.ofList host, .schemed ?_⟩
    rwa [String.toList_ofList, String.toList_ofList]

/-- A base is made up of the scheme and the host that are asked for. -/
theorem ofText_of_asks {b scheme host : String} (h : Asks b scheme host) :
    ofText b = ⟨scheme ++ "://" ++ host, host⟩ := by
  cases h with
  | schemed h =>
    have hurl : String.ofList (trimmed b).toList = scheme ++ "://" ++ host := by
      rw [h.eq, String.ofList_append, String.ofList_append]
      simp
    simp only [ofText, trimSlashes_toList, h.afterScheme?_eq, hurl, String.ofList_toList]
  | bare h =>
    simp only [ofText, trimSlashes_toList, afterScheme?_eq_none.2 h, String.ofList_toList]
    rfl

/-- Slashes at the end do not count. -/
theorem ofText_append_slashes (b : String) (n : Nat) : ofText (b ++ slashes n) = ofText b := by
  rw [ofText, ofText, String.toList_append, slashes, @String.toList_ofList (List.replicate n '/'),
    trimSlashes_append_replicate]

theorem trimmed_append (front : String) {b : String} (h : ∃ c ∈ b.toList, c ≠ '/') :
    trimmed (front ++ b) = front ++ trimmed b := by
  rw [← String.toList_inj, ← trimSlashes_toList, String.toList_append, String.toList_append,
    trimSlashes_append _ h, trimSlashes_toList]

theorem trimmed_of_not_slash_suffix {b : String} (h : ¬ ['/'] <:+ b.toList) : trimmed b = b := by
  rw [← String.toList_inj, ← trimSlashes_toList, trimSlashes_of_not_slash_suffix h]

theorem isCut_https (host : String) :
    IsCut ("https://" ++ host).toList "https".toList host.toList where
  eq := by rw [String.toList_append]; rfl
  first := by decide

/-- A host alone is reached over `https`. -/
theorem ofText_https {b : String} (h : ∃ c ∈ b.toList, c ≠ '/')
    (hbare : ¬ "://".toList <:+: (trimmed b).toList) : ofText ("https://" ++ b) = ofText b := by
  have hasks : Asks ("https://" ++ b) "https" (trimmed b) := .schemed (by
    rw [trimmed_append _ h]
    exact isCut_https _)
  rw [ofText_of_asks hasks, ofText_of_asks (.bare hbare)]

namespace Asks

variable {b scheme host : String}

theorem host_ne_empty (h : ∃ c ∈ b.toList, c ≠ '/') (hasks : Asks b scheme host) : host ≠ "" := by
  intro hempty
  cases hasks with
  | schemed hcut =>
    -- a separator at the end would have lost its slashes
    refine not_slash_suffix_trimSlashes b.toList ⟨scheme.toList ++ [':', '/'], ?_⟩
    rw [trimSlashes_toList, hcut.eq, hempty]
    simp
  | bare =>
    refine trimSlashes_ne_nil h ?_
    rw [trimSlashes_toList, hempty]
    rfl

theorem not_slash_suffix (hasks : Asks b scheme host) : ¬ ['/'] <:+ host.toList := by
  have hsuffix : host.toList <:+ (trimmed b).toList := by
    cases hasks with
    | schemed hcut => exact ⟨_, hcut.eq.symm⟩
    | bare => exact List.suffix_rfl
  intro hslash
  rw [← trimSlashes_toList] at hsuffix
  exact not_slash_suffix_trimSlashes b.toList (hslash.trans hsuffix)

theorem isCut (hasks : Asks b scheme host) :
    IsCut (scheme ++ "://" ++ host).toList scheme.toList host.toList := by
  cases hasks with
  | schemed hcut =>
    rwa [String.toList_append, String.toList_append, ← hcut.eq]
  | bare => exact isCut_https _

/-- The address which is asked for does not end in a slash either. -/
theorem url_not_slash_suffix (h : ∃ c ∈ b.toList, c ≠ '/') (hasks : Asks b scheme host) :
    ¬ ['/'] <:+ (scheme ++ "://" ++ host).toList := by
  have hne : 1 ≤ host.toList.length := by
    rw [Nat.one_le_iff_ne_zero, ne_eq, List.length_eq_zero_iff, String.toList_eq_nil_iff]
    exact hasks.host_ne_empty h
  intro hslash
  have hhost : host.toList <:+ (scheme ++ "://" ++ host).toList := ⟨_, hasks.isCut.eq.symm⟩
  exact hasks.not_slash_suffix (List.suffix_of_suffix_length_le hslash hhost hne)

/-- A base asks for itself. -/
theorem url (h : ∃ c ∈ b.toList, c ≠ '/') (hasks : Asks b scheme host) :
    Asks (scheme ++ "://" ++ host) scheme host := .schemed (by
  rw [trimmed_of_not_slash_suffix (hasks.url_not_slash_suffix h)]
  exact hasks.isCut)

end Asks

end ApiBase

/-! ## Clients -/

namespace PublicApi

open ApiBase

/-- The client for which bases were asked one after the other. -/
def atBases (c : PublicApi) (bases : List String) : PublicApi := bases.foldl withBase c

theorem base_atBases (c : PublicApi) (bases : List String) (b : String) :
    (c.atBases (bases ++ [b])).base = .ofText b := by
  rw [atBases, List.foldl_append]
  rfl

/-- Where a client asks and what it is known as: its addresses are paths of the interface behind a
    base which does not end in a slash, and its host names it. -/
structure AsksAt (c : PublicApi) (url host : String) : Prop where
  base : c.base = ⟨url, host⟩
  no_slash : ¬ ['/'] <:+ url.toList
  devices : ∃ path, c.devicesUrl = url ++ ("/api/v2/" ++ path)
  token : ∃ path, c.tokenUrl = url ++ ("/api/v2/" ++ path)
  label : ∀ id, ("host", host) ∈ (Interface.publicApi id c).endpoint.labels
  stamp : ∀ r devices, c.devices r = .ok devices → ∀ d ∈ devices, d.api = host

theorem devicesPath_eq (tailnet : String) :
    devicesPath tailnet = "/api/v2/" ++ ("tailnet/" ++ tailnet ++ "/devices") := by
  have hpath : "/api/v2/tailnet/" = "/api/v2/" ++ "tailnet/" := by decide +kernel
  calc devicesPath tailnet = "/api/v2/tailnet/" ++ tailnet ++ "/devices" := rfl
    _ = "/api/v2/" ++ ("tailnet/" ++ tailnet ++ "/devices") := by
      rw [hpath, String.append_assoc, String.append_assoc, String.append_assoc]

theorem asksAt {c : PublicApi} {url host : String} (hbase : c.base = ⟨url, host⟩)
    (hslash : ¬ ['/'] <:+ url.toList) : c.AsksAt url host where
  base := hbase
  no_slash := hslash
  devices := ⟨_, by rw [devicesUrl, hbase, devicesPath_eq]⟩
  token := ⟨"oauth/token", by rw [tokenUrl, hbase, tokenPath]; rfl⟩
  label id := by
    have hlabel : ("host", c.base.host) ∈ (Interface.publicApi id c).endpoint.labels :=
      List.mem_cons_of_mem _ (List.mem_singleton_self _)
    rwa [hbase] at hlabel
  stamp r devices h d hd := by
    obtain ⟨reported, -, rfl⟩ := Except.map_eq_ok h
    obtain ⟨d', -, rfl⟩ := List.mem_map.1 hd
    rw [stamp, hbase]

/-- **Only the last base counts, in one normal form.** It is made up of the scheme and the host
    which the text asks for, `https` if it names no scheme, however many slashes stand at its end;
    and it asks for itself.  The client asks for paths behind it, and is known by its host.  The
    scheme is what stands before the first separator: a text which starts with `://` asks for an
    empty one. -/
theorem atBases_normal (c : PublicApi) (bases : List String) {b : String}
    (h : ∃ x ∈ b.toList, x ≠ '/') :
    ∃ scheme host, Asks b scheme host ∧ host ≠ "" ∧ ¬ ['/'] <:+ host.toList ∧
      (c.atBases (bases ++ [b])).AsksAt (scheme ++ "://" ++ host) host ∧
      (∀ (c' : PublicApi) (bases' : List String),
        (c'.atBases (bases' ++ [b])).base = (c.atBases (bases ++ [b])).base) ∧
      (∀ (b' : String) (m n : Nat), b ++ slashes m = b' ++ slashes n →
        (c.atBases (bases ++ [b'])).base = (c.atBases (bases ++ [b])).base) ∧
      (¬ "://".toList <:+: (trimmed b).toList →
        (c.atBases (bases ++ ["https://" ++ b])).base = (c.atBases (bases ++ [b])).base) ∧
      (c.atBases (bases ++ [b] ++ [scheme ++ "://" ++ host])).base =
        (c.atBases (bases ++ [b])).base := by
  obtain ⟨scheme, host, hasks⟩ := exists_asks b
  have hbase : (c.atBases (bases ++ [b])).base = ⟨scheme ++ "://" ++ host, host⟩ := by
    rw [base_atBases, ofText_of_asks hasks]
  refine ⟨scheme, host, hasks, hasks.host_ne_empty h, hasks.not_slash_suffix,
    asksAt hbase (hasks.url_not_slash_suffix h), fun c' bases' => ?_, fun b' m n heq => ?_,
    fun hbare => ?_, ?_⟩
  · rw [base_atBases, base_atBases]
  · rw [base_atBases, base_atBases, ← ofText_append_slashes b' n, ← heq, ofText_append_slashes]
  · rw [base_atBases, base_atBases, ofText_https h hbare]
  · rw [base_atBases, hbase, ofText_of_asks (hasks.url h)]

/-- What looks like a scheme without a host is the host, since the slashes at its end do not
    count. -/
theorem atBases_normal_schemeless :
    ((standard "-" (.token "t")).atBases ["http://first", "x://"]).AsksAt "https://x:" "x:" := by
  obtain ⟨scheme, host, -, -, -, hat, -⟩ :=
    atBases_normal (standard "-" (.token "t")) ["http://first"] (b := "x://")
      ⟨'x', by simp, by decide⟩
  have hbase : ((standard "-" (.token "t")).atBases (["http://first"] ++ ["x://"])).base =
      ⟨"https://x:", "x:"⟩ := by decide +kernel
  obtain ⟨hurl, hhost⟩ := ApiBase.mk.inj (hbase.symm.trans hat.base)
  rwa [← hurl, ← hhost] at hat

end PublicApi

end TailnetTargets
