/-
  Keys of TOML documents.

  * `TomlEntries.IsDistinct`: no key occurs twice among the entries of a table, and
    `TomlNode.IsDistinct`, `Toml.IsDistinct`: nor among those of a table which is a value;
  * `TomlEntries.Keeps`: a change which leaves it so, for a table and for the tables in it.  So does
    everything that a line of a document says (`keeps_defineIn`, `keeps_open`, `keeps_openElement`);
  * `Toml.ofText?_isDistinct`: no key occurs twice in a document, and none twice in a table of it.
-/
import Mathlib.Data.List.Basic
import Mathlib.Data.Option.Basic
import TailnetTargets.Toml.Reader

namespace TailnetTargets

/-- Whether no key occurs twice. -/
def TomlEntries.IsDistinct (entries : TomlEntries) : Prop := (entries.map (·.1)).Nodup

/-- Whether no key of a table occurs twice, if the value is a table. -/
def Toml.IsDistinct : Toml → Prop
  | table entries => (entries.map (·.1)).Nodup
  | _ => True

/-- Whether no key of a table occurs twice, if the node is or becomes a table. -/
def TomlNode.IsDistinct : TomlNode → Prop
  | value v => v.IsDistinct
  | table _ _ entries => TomlEntries.IsDistinct entries
  | tables _ => True

theorem TomlNode.entriesToToml_eq_map (entries : List (String × TomlNode)) :
    entriesToToml entries = entries.map fun e => (e.1, e.2.toToml) := by
  induction entries with
  | nil => rfl
  | cons e rest ih => simp only [entriesToToml, List.map_cons, ih]

theorem TomlNode.keys_entriesToToml (entries : List (String × TomlNode)) :
    (entriesToToml entries).map (·.1) = entries.map (·.1) := by
  rw [entriesToToml_eq_map, List.map_map]
  rfl

theorem TomlNode.isDistinct_toToml {node : TomlNode} (h : node.IsDistinct) :
    node.toToml.IsDistinct := by
  cases node with
  | value v => exact h
  | table implied dotted entries =>
    show ((entriesToToml entries).map (·.1)).Nodup
    rw [keys_entriesToToml]
    have hd : TomlEntries.IsDistinct entries := h
    exact hd
  | tables elements => trivial

namespace TomlEntries

variable {entries inner : TomlEntries} {key : String} {node : TomlNode}

/-- Whether no key occurs twice in the tables which are entries. -/
def IsDistinctBelow (entries : TomlEntries) : Prop := ∀ e ∈ entries, e.2.IsDistinct

theorem isDistinct_nil : IsDistinct [] := List.nodup_nil

theorem get?_mem (h : entries.get? key = some node) : ∃ e ∈ entries, e.2 = node := by
  obtain ⟨before, rest, rfl, -⟩ := List.lookup_eq_some_iff.1 h
  exact ⟨(key, node), by simp, rfl⟩

theorem set_isDistinct (h : entries.IsDistinct) : (entries.set key node).IsDistinct := by
  unfold set
  split
  · have hkeys : (entries.map fun e => if e.1 = key then (key, node) else e).map (·.1) =
        entries.map (·.1) := by
      rw [List.map_map]
      refine List.map_congr_left fun e _ => ?_
      by_cases he : e.1 = key <;> simp [he]
    rw [IsDistinct, hkeys]
    exact h
  · next hnone =>
    have hnot : ∀ e ∈ entries, e.1 ≠ key := by
      intro e he heq
      refine hnone ?_
      rw [get?, Option.isSome_iff_ne_none]
      intro hlookup
      have := List.lookup_eq_none_iff.1 hlookup e he
      simp [heq] at this
    rw [IsDistinct, List.map_append, List.nodup_append]
    refine ⟨h, by simp, ?_⟩
    intro k hk k' hk' heq
    obtain ⟨e, he, rfl⟩ := List.mem_map.1 hk
    exact hnot e he (by simpa [heq] using hk')

theorem set_isDistinctBelow (h : entries.IsDistinctBelow) (hnode : node.IsDistinct) :
    (entries.set key node).IsDistinctBelow := by
  intro e he
  unfold set at he
  split at he
  · obtain ⟨e', he', rfl⟩ := List.mem_map.1 he
    split
    · exact hnode
    · exact h e' he'
  · rcases List.mem_append.1 he with he | he
    · exact h e he
    · rw [List.mem_singleton.1 he]
      exact hnode

/-- A change of entries after which still no key occurs twice, neither there nor in the tables
    which are entries. -/
structure Keeps (change : TomlEntries → Option TomlEntries) : Prop where
  distinct {es es' : TomlEntries} (h : change es = some es') (hd : es.IsDistinct) : es'.IsDistinct
  below {es es' : TomlEntries} (h : change es = some es') (hd : es.IsDistinctBelow) :
    es'.IsDistinctBelow

theorem Keeps.of_set {change : TomlEntries → Option TomlEntries}
    (h : ∀ es es', change es = some es' → ∃ key node, es' = es.set key node ∧
      (es.IsDistinctBelow → node.IsDistinct)) : Keeps change where
  distinct hchange hd := by
    obtain ⟨key, node, rfl, -⟩ := h _ _ hchange
    exact set_isDistinct hd
  below hchange hd := by
    obtain ⟨key, node, rfl, hnode⟩ := h _ _ hchange
    exact set_isDistinctBelow hd (hnode hd)

theorem keeps_within {change : Bool → TomlEntries → Option TomlEntries}
    (h : ∀ d, Keeps (change d)) (dotted : Bool) (path : List String) (d : Bool) :
    Keeps (within? path dotted change d) := by
  induction path generalizing d with
  | nil => exact h d
  | cons key path ih =>
    refine .of_set fun es es' hes => ?_
    rw [within?] at hes
    split at hes
    · simp only [Option.bind_eq_bind, Option.bind_eq_some_iff, Option.pure_def] at hes
      obtain ⟨grown, hgrown, ⟨⟩⟩ := hes
      exact ⟨key, _, rfl, fun _ => (ih dotted).distinct hgrown isDistinct_nil⟩
    · cases hes
    · next implied d' found hget =>
      simp only [Option.bind_eq_bind, Option.bind_eq_some_iff, Option.pure_def] at hes
      obtain ⟨-, -, grown, hgrown, ⟨⟩⟩ := hes
      refine ⟨key, _, rfl, fun hbelow => (ih d').distinct hgrown ?_⟩
      obtain ⟨e, he, hfound⟩ := get?_mem hget
      have hold : TomlNode.IsDistinct (.table implied d' found) := hfound ▸ hbelow e he
      exact hold
    · simp only [Option.bind_eq_bind, Option.bind_eq_some_iff, Option.pure_def] at hes
      obtain ⟨-, -, -, -, ⟨⟩⟩ := hes
      exact ⟨key, _, rfl, fun _ => trivial⟩

/-- A change which has to find something first. -/
theorem Keeps.of_bind {α : Type} {found : Option α} {change : α → TomlEntries → Option TomlEntries}
    (h : ∀ a, Keeps (change a)) : Keeps fun es => found.bind fun a => change a es where
  distinct hes hd := by
    obtain ⟨a, -, hchange⟩ := Option.bind_eq_some_iff.1 hes
    exact (h a).distinct hchange hd
  below hes hd := by
    obtain ⟨a, -, hchange⟩ := Option.bind_eq_some_iff.1 hes
    exact (h a).below hchange hd

/-! ## What the lines of a document change -/

theorem keeps_define (path : List String) {v : Toml} (hv : v.IsDistinct) :
    Keeps (define? path v) := by
  refine .of_bind fun key => keeps_within (fun d => .of_set fun es es' hes => ?_) true _ false
  simp only [Option.bind_eq_bind, Option.bind_eq_some_iff, Option.pure_def] at hes
  obtain ⟨-, -, ⟨⟩⟩ := hes
  exact ⟨key, _, rfl, fun _ => hv⟩

theorem keeps_defineIn (opened path : List String) {v : Toml} (hv : v.IsDistinct) :
    Keeps (defineIn? opened path v) :=
  keeps_within (fun _ => keeps_define path hv) false opened false

theorem keeps_open (path : List String) : Keeps (open? path) := by
  refine .of_bind fun key => keeps_within (fun d => .of_set fun es es' hes => ?_) false _ false
  split at hes
  · cases hes
    exact ⟨key, _, rfl, fun _ => isDistinct_nil⟩
  · next found hget =>
    cases hes
    refine ⟨key, _, rfl, fun hbelow => ?_⟩
    obtain ⟨e, he, hfound⟩ := get?_mem hget
    have hold : TomlNode.IsDistinct (.table true false found) := hfound ▸ hbelow e he
    exact hold
  · cases hes

theorem keeps_openElement (path : List String) : Keeps (openElement? path) := by
  refine .of_bind fun key => keeps_within (fun d => .of_set fun es es' hes => ?_) false _ false
  split at hes
  · cases hes
    exact ⟨key, _, rfl, fun _ => trivial⟩
  · cases hes
    exact ⟨key, _, rfl, fun _ => trivial⟩
  · cases hes

end TomlEntries

namespace Toml

/-! ## Values -/

theorem isDistinct_of_scalar {cs rest : List Char} {v : Toml}
    (h : takeScalar? cs = some (v, rest)) : v.IsDistinct := by
  simp only [takeScalar?, Option.bind_eq_bind, Option.bind_eq_some_iff, Option.pure_def] at h
  obtain ⟨v', hv, h⟩ := h
  cases h
  unfold ofScalar? at hv
  split at hv
  · cases hv
    trivial
  · split at hv
    · cases hv
      trivial
    · split at hv
      · cases hv
        trivial
      · split at hv <;> cases hv <;> trivial

/-- Values in a document and entries in braces. -/
theorem isDistinct_of_take (fuel : Nat) :
    (∀ depth cs v rest, takeValueWithin? fuel depth cs = some (v, rest) → v.IsDistinct) ∧
      ∀ depth entries cs inner rest, takeMembers? fuel depth entries cs = some (inner, rest) →
        TomlEntries.IsDistinct entries → TomlEntries.IsDistinct inner := by
  induction fuel with
  | zero =>
    constructor
    · intro depth cs v rest h
      simp [takeValueWithin?] at h
    · intro depth entries cs inner rest h
      simp [takeMembers?] at h
  | succ fuel ih =>
    obtain ⟨ihvalue, ihmembers⟩ := ih
    constructor
    · intro depth cs v rest h
      rw [takeValueWithin?.eq_def] at h
      simp only at h
      split at h
      · split at h <;> cases h
        trivial
      · split at h <;> cases h
        trivial
      · split at h
        · cases h
        · split at h <;> cases h
          trivial
      · split at h
        · cases h
        · split at h
          · cases h
            exact List.nodup_nil
          · split at h
            · next entries rest' hmembers =>
              cases h
              show ((TomlNode.entriesToToml entries).map (·.1)).Nodup
              rw [TomlNode.keys_entriesToToml]
              have := ihmembers _ _ _ _ _ hmembers TomlEntries.isDistinct_nil
              exact this
            · cases h
      · exact isDistinct_of_scalar h
    · intro depth entries cs inner rest h hd
      rw [takeMembers?.eq_def] at h
      simp only [Option.bind_eq_bind, Option.bind_eq_some_iff, Option.pure_def] at h
      obtain ⟨⟨key, rest₁⟩, -, ⟨v, rest₂⟩, hv, grown, hgrown, h⟩ := h
      have hnew := (TomlEntries.keeps_define key (ihvalue _ _ _ _ hv)).distinct hgrown hd
      split at h
      · cases h
        exact hnew
      · exact ihmembers _ _ _ _ _ h hnew
      · cases h

/-! ## Documents -/

/-- No key occurs twice in what was read so far, and none twice in a table of it. -/
structure Progress.IsDistinct (p : Progress) : Prop where
  entries : TomlEntries.IsDistinct p.entries
  below : TomlEntries.IsDistinctBelow p.entries

theorem Progress.IsDistinct.of_keeps {p q : Progress} {f : TomlEntries → Option TomlEntries}
    (h : p.IsDistinct) (hf : TomlEntries.Keeps f) (hq : f p.entries = some q.entries) :
    q.IsDistinct :=
  ⟨hf.distinct hq h.entries, hf.below hq h.below⟩

theorem Progress.IsDistinct.line {p q : Progress} {cs rest : List Char} (hp : p.IsDistinct)
    (h : takeLine? p cs = some (q, rest)) : q.IsDistinct := by
  unfold takeLine? at h
  split at h
  · simp only [Option.bind_eq_bind, Option.bind_eq_some_iff, Option.pure_def] at h
    obtain ⟨found, -, h⟩ := h
    split at h
    · simp only [Option.bind_eq_some_iff] at h
      obtain ⟨entries, hopen, h⟩ := h
      cases h
      exact hp.of_keeps (TomlEntries.keeps_openElement _) hopen
    · cases h
  · simp only [Option.bind_eq_bind, Option.bind_eq_some_iff, Option.pure_def] at h
    obtain ⟨found, -, h⟩ := h
    split at h
    · simp only [Option.bind_eq_some_iff] at h
      obtain ⟨entries, hopen, h⟩ := h
      cases h
      exact hp.of_keeps (TomlEntries.keeps_open _) hopen
    · cases h
  · simp only [Option.bind_eq_bind, Option.bind_eq_some_iff, Option.pure_def] at h
    obtain ⟨⟨key, rest₁⟩, -, ⟨v, rest₂⟩, hv, entries, hdefine, h⟩ := h
    cases h
    have hdistinct : v.IsDistinct := (isDistinct_of_take _).1 _ _ _ _ hv
    exact hp.of_keeps (TomlEntries.keeps_defineIn p.opened key hdistinct) hdefine

theorem Progress.IsDistinct.lines {p q : Progress} {fuel : Nat} {cs : List Char}
    (hp : p.IsDistinct) (h : takeLines? fuel p cs = some q) : q.IsDistinct := by
  induction fuel generalizing p cs with
  | zero => cases h
  | succ fuel ih =>
    rw [takeLines?] at h
    split at h
    · cases h
      exact hp
    · simp only [Option.bind_eq_bind, Option.bind_eq_some_iff] at h
      obtain ⟨⟨p', rest⟩, hline, rest', -, h⟩ := h
      exact ih (hp.line hline) h

/-- **No key occurs twice in a document**, and none twice in a table of it. -/
theorem ofText?_isDistinct {s : String} {doc : List (String × Toml)} (h : ofText? s = some doc) :
    (doc.map (·.1)).Nodup ∧ ∀ e ∈ doc, e.2.IsDistinct := by
  simp only [ofText?, Option.bind_eq_bind, Option.bind_eq_some_iff, Option.pure_def] at h
  obtain ⟨p, hlines, h⟩ := h
  cases h
  have hstart : Progress.IsDistinct ⟨[], []⟩ :=
    ⟨TomlEntries.isDistinct_nil, fun _ he => by cases he⟩
  have hp := hstart.lines hlines
  constructor
  · rw [TomlNode.keys_entriesToToml]
    exact hp.entries
  · intro e he
    rw [TomlNode.entriesToToml_eq_map] at he
    obtain ⟨e', he', rfl⟩ := List.mem_map.1 he
    exact TomlNode.isDistinct_toToml (hp.below e' he')

end Toml

end TailnetTargets
