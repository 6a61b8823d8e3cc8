/-
  What a file with settings says.

  * `Section.entriesOf?`: the entries of a table, and `Settings.value?`: the value which a file has
    for a key of a table;
  * `Section.vacate_standard`: a setting has the same value when a table lacks its key and when
    there is no such table;
  * `Settings.IsReadable`: the tables of a file are tables, and their keys have values of the right
    kind.  Other tables and other keys do not matter.  `exists_ofToml?`: such a file gives settings;
  * `Setting`: a setting with the key that gives it, and `Setting.IsGiven`: that key gives it, and
    no other changes it.  `IsGiven.field_ofText?`: so it is the value of its key, or else the default.
-/
import TailnetTargets.Proofs.Toml.Keys
import TailnetTargets.Settings.File

namespace TailnetTargets

theorem lookup_of_mem {α : Type} {entries : List (String × α)} {key : String} {a : α}
    (hd : (entries.map (·.1)).Nodup) (h : (key, a) ∈ entries) : entries.lookup key = some a := by
  obtain ⟨before, rest, rfl⟩ := List.append_of_mem h
  refine List.lookup_eq_some_iff.2 ⟨before, rest, rfl, fun e he => ?_⟩
  rw [List.map_append, List.nodup_append] at hd
  have hne := hd.2.2 e.1 (List.mem_map_of_mem he) key (by simp)
  simpa using Ne.symm hne

theorem lookup_of_not_mem {α : Type} {entries : List (String × α)} {key : String}
    (h : key ∉ entries.map (·.1)) : entries.lookup key = none := by
  rw [List.lookup_eq_none_iff]
  intro e he
  simp only [bne_iff_ne, ne_eq]
  rintro rfl
  exact h (List.mem_map_of_mem he)

theorem mem_of_lookup {α : Type} {entries : List (String × α)} {key : String} {a : α}
    (h : entries.lookup key = some a) : (key, a) ∈ entries := by
  obtain ⟨before, rest, rfl, -⟩ := List.lookup_eq_some_iff.1 h
  simp

theorem lookup_cons_of_nodup {α : Type} {e : String × α} {rest : List (String × α)}
    (hd : ((e :: rest).map (·.1)).Nodup) {key : String} {a : α} (h : rest.lookup key = some a) :
    (e :: rest).lookup key = some a := by
  have hne : key ≠ e.1 := by
    rintro rfl
    rw [lookup_of_not_mem (List.nodup_cons.1 hd).1] at h
    cases h
  rw [List.lookup_cons, beq_false_of_ne hne]
  exact h

theorem map_fst_zip_sublist {α β : Type} (l : List α) (m : List β) :
    ((l.zip m).map (·.1)).Sublist l := by
  induction l generalizing m with
  | nil => simp
  | cons a l ih => cases m <;> simp [ih]

namespace Section

variable {keys : Section} {key : String} {s s' : Settings} {entries : List (String × Toml)}

/-- The entries of a table, which may be an array of the values in the order of the keys. -/
def entriesOf? (keys : Section) : Toml → Option (List (String × Toml))
  | .table entries => some entries
  | .array items => some ((keys.map (·.1)).zip items)
  | _ => none

theorem nodup_keys : ∀ p ∈ all, (p.2.map (·.1)).Nodup := by
  simp [all, api, discovery, tailscale]

/-- **What a setting is without its key is what it is without its table.** -/
theorem vacate_standard : ∀ p ∈ all, p.2.vacate {} = {} := by
  decide

/-- Values in the order of the keys are read as entries with these keys. -/
theorem ofItems?_eq (h : (keys.map (·.1)).Nodup) (s : Settings) (items : List Toml) :
    ofItems? s keys items = keys.ofEntries? s ((keys.map (·.1)).zip items) := by
  have hsuffix : ∀ (rest : Section) (items : List Toml) (s : Settings),
      (∀ e ∈ rest, keys.lookup e.1 = some e.2) →
        ofItems? s rest items = keys.ofEntries? s ((rest.map (·.1)).zip items) := by
    intro rest
    induction rest with
    | nil => intro items s _; cases items <;> rfl
    | cons e rest ih =>
      intro items s hrest
      cases items with
      | nil => rfl
      | cons v items =>
        rw [ofItems?, List.map_cons, List.zip_cons_cons, ofEntries?, hrest e (by simp)]
        refine congrArg (Option.bind (e.2.read v)) (funext fun put => ?_)
        exact ih items (put s) fun e' he' => hrest e' (by simp [he'])
  exact hsuffix keys items s fun e he => lookup_of_mem h he

theorem read?_eq (h : (keys.map (·.1)).Nodup) (s : Settings) (v : Toml) :
    keys.read? s v = (keys.entriesOf? v).bind (keys.ofEntries? (keys.vacate s)) := by
  cases v with
  | array items => exact ofItems?_eq h (keys.vacate s) items
  | _ => rfl

/-- No key occurs twice among the entries of a table. -/
theorem nodup_entriesOf? (h : (keys.map (·.1)).Nodup) {v : Toml} (hv : v.IsDistinct)
    (he : keys.entriesOf? v = some entries) : (entries.map (·.1)).Nodup := by
  cases v with
  | table found =>
    cases he
    exact hv
  | array items =>
    cases he
    exact h.sublist (map_fst_zip_sublist _ items)
  | _ => cases he

/-- Entries whose keys have values of the right kind give settings. -/
theorem exists_ofEntries? (hd : (entries.map (·.1)).Nodup)
    (h : ∀ key k v, keys.lookup key = some k → entries.lookup key = some v → (k.read v).isSome)
    (s : Settings) : ∃ s', keys.ofEntries? s entries = some s' := by
  induction entries generalizing s with
  | nil => exact ⟨s, rfl⟩
  | cons e rest ih =>
    obtain ⟨key, v⟩ := e
    have ih' := ih (List.nodup_cons.1 hd).2 fun key' k x hk hx =>
      h key' k x hk (lookup_cons_of_nodup hd hx)
    rw [ofEntries?]
    cases hk : keys.lookup key with
    | none => exact ih' s
    | some k =>
      obtain ⟨put, hput⟩ := Option.isSome_iff_exists.1 (h key k v hk List.lookup_cons_self)
      simp only [hput]
      exact ih' (put s)

end Section

namespace Settings

/-- The value which a file has for a key of a table. -/
def value? (doc : List (String × Toml)) (table key : String) : Option Toml := do
  let keys ← Section.all.lookup table
  let entries ← keys.entriesOf? (← doc.lookup table)
  entries.lookup key

/-- Whether the tables of a file are tables, and their keys have values of the right kind. -/
def IsReadable (doc : List (String × Toml)) : Prop :=
  ∀ table keys v, Section.all.lookup table = some keys → doc.lookup table = some v →
    ∃ entries, keys.entriesOf? v = some entries ∧
      ∀ key k x, keys.lookup key = some k → entries.lookup key = some x → (k.read x).isSome

theorem exists_withToml? {doc : List (String × Toml)} (hkeys : (doc.map (·.1)).Nodup)
    (hbelow : ∀ e ∈ doc, e.2.IsDistinct) (h : IsReadable doc) (s : Settings) :
    ∃ s', withToml? s doc = some s' := by
  induction doc generalizing s with
  | nil => exact ⟨s, rfl⟩
  | cons e rest ih =>
    obtain ⟨table, v⟩ := e
    have ih' := ih (List.nodup_cons.1 hkeys).2 (fun e he => hbelow e (by simp [he]))
      fun t keys x hall hx => h t keys x hall (lookup_cons_of_nodup hkeys hx)
    rw [withToml?]
    cases hall : Section.all.lookup table with
    | none => exact ih' s
    | some keys =>
      obtain ⟨entries, he, hread⟩ := h table keys v hall List.lookup_cons_self
      have hnodup := Section.nodup_keys (table, keys) (mem_of_lookup hall)
      have hentries := Section.nodup_entriesOf? hnodup (hbelow (table, v) (by simp)) he
      obtain ⟨s', hs'⟩ := Section.exists_ofEntries? hentries hread (keys.vacate s)
      simp only [Section.read?_eq hnodup, he, Option.bind_some, hs']
      exact ih' s'

/-- A file whose tables and keys have values of the right kind gives settings. -/
theorem exists_ofToml? {text : String} {doc : List (String × Toml)}
    (hdoc : Toml.ofText? text = some doc) (h : IsReadable doc) : ∃ s, ofText? text = some s := by
  obtain ⟨hkeys, hbelow⟩ := Toml.ofText?_isDistinct hdoc
  rw [ofText?, hdoc]
  exact exists_withToml? hkeys hbelow h {}

/-- A document whose tables are empty gives the settings which there are without a document. -/
theorem ofToml?_of_empty {doc : List (String × Toml)} (h : ∀ e ∈ doc, e.2 = .table []) :
    ofToml? doc = some {} := by
  induction doc with
  | nil => rfl
  | cons e rest ih =>
    obtain ⟨table, v⟩ := e
    obtain ⟨rfl, hrest⟩ := List.forall_mem_cons.1 h
    rw [ofToml?, withToml?]
    cases hall : Section.all.lookup table with
    | none => exact ih hrest
    | some keys =>
      simp only [Section.read?, Section.ofEntries?,
        Section.vacate_standard (table, keys) (mem_of_lookup hall)]
      exact ih hrest

end Settings

/-! ## Single settings -/

namespace SettingReader

variable {β : Type} {field : Settings → β}

/-- Whether no value that is read changes a setting. -/
def Leaves (read : SettingReader) (field : Settings → β) : Prop :=
  ∀ v put, read v = some put → ∀ s, field (put s) = field s

theorem leaves_text {put : String → Settings → Settings} :
    (text put).Leaves field ↔ ∀ x s, field (put x s) = field s := by
  constructor
  · exact fun h x s => h (.text x) (put x) rfl s
  · intro h v put' hput s
    cases v <;> cases hput
    exact h _ s

theorem leaves_bool {put : Bool → Settings → Settings} :
    (bool put).Leaves field ↔ ∀ b s, field (put b s) = field s := by
  constructor
  · exact fun h b s => h (.bool b) (put b) rfl s
  · intro h v put' hput s
    cases v <;> cases hput
    exact h _ s

theorem leaves_duration {put : Duration → Settings → Settings} :
    (duration put).Leaves field ↔
      ∀ x d, Duration.ofText? x = some d → ∀ s, field (put d s) = field s := by
  constructor
  · intro h x d hd s
    refine h (.text x) (put d) ?_ s
    rw [duration, hd, Option.map_some]
  · intro h v put' hput s
    cases v with
    | text x =>
      obtain ⟨d, hd, rfl⟩ := Option.map_eq_some_iff.1 hput
      exact h x d hd s
    | _ => cases hput

end SettingReader

/-- Whether a key has nothing to do with a setting. -/
structure SettingKey.Leaves (k : SettingKey) {β : Type} (field : Settings → β) : Prop where
  missing : ∀ s, field (k.missing s) = field s
  read : k.read.Leaves field

namespace SettingKey

variable {β : Type} {field : Settings → β}

@[simp]
theorem leaves_text {absent : String} {put : String → Settings → Settings} :
    (text absent put).Leaves field ↔ ∀ x s, field (put x s) = field s :=
  ⟨fun h => SettingReader.leaves_text.1 h.read,
    fun h => ⟨h absent, SettingReader.leaves_text.2 h⟩⟩

@[simp]
theorem leaves_text? {put : Option String → Settings → Settings} :
    (text? put).Leaves field ↔ ∀ x s, field (put x s) = field s := by
  refine ⟨fun h x s => ?_, fun h => ⟨h none, SettingReader.leaves_text.2 fun x => h (some x)⟩⟩
  cases x with
  | none => exact h.missing s
  | some x => exact SettingReader.leaves_text.1 h.read x s

@[simp]
theorem leaves_bool {put : Bool → Settings → Settings} :
    (bool put).Leaves field ↔ ∀ b s, field (put b s) = field s :=
  ⟨fun h => SettingReader.leaves_bool.1 h.read, fun h => ⟨h false, SettingReader.leaves_bool.2 h⟩⟩

@[simp]
theorem leaves_duration {absent : Duration} {put : Duration → Settings → Settings} :
    (duration absent put).Leaves field ↔ (∀ s, field (put absent s) = field s) ∧
      ∀ x d, Duration.ofText? x = some d → ∀ s, field (put d s) = field s :=
  ⟨fun h => ⟨h.missing, SettingReader.leaves_duration.1 h.read⟩,
    fun h => ⟨h.1, SettingReader.leaves_duration.2 h.2⟩⟩

end SettingKey

/-- A setting with the key of a table which gives it, and what the value of that key means. -/
structure Setting (β : Type) where
  table : String
  key : String
  field : Settings → β
  read : Toml → Option β

namespace Setting

variable {β : Type} {st : Setting β}

/-- The value which a file gives a setting. -/
def inFile? (st : Setting β) (doc : List (String × Toml)) : Option β :=
  (Settings.value? doc st.table st.key).bind st.read

/-- Whether a setting is given by its key, is the same without the key as without the table, and has
    to do with no other key. -/
structure IsGiven (st : Setting β) : Prop where
  own : ∃ keys k, Section.all.lookup st.table = some keys ∧ keys.lookup st.key = some k ∧
    (∀ v s, (k.read v).map (fun put => st.field (put s)) = st.read v) ∧
    ∀ s, st.field (k.missing s) = st.field {}
  other : ∀ p ∈ Section.all, ∀ q ∈ p.2, p.1 = st.table ∧ q.1 = st.key ∨ q.2.Leaves st.field

theorem IsGiven.leaves (h : st.IsGiven) {table : String} {keys : Section}
    (hall : Section.all.lookup table = some keys) {key : String} {k : SettingKey}
    (hkey : keys.lookup key = some k) (hne : ¬ (table = st.table ∧ key = st.key)) :
    k.Leaves st.field :=
  (h.other _ (mem_of_lookup hall) _ (mem_of_lookup hkey)).resolve_left hne

/-- Keys which have nothing to do with a setting leave it when they are missing. -/
theorem field_vacate_of_leaves {keys : Section} (h : ∀ e ∈ keys, e.2.Leaves st.field)
    (s : Settings) : st.field (keys.vacate s) = st.field s := by
  induction keys generalizing s with
  | nil => rfl
  | cons e rest ih =>
    obtain ⟨he, hrest⟩ := List.forall_mem_cons.1 h
    exact (ih hrest (e.2.missing s)).trans (he.missing s)

/-- A table which lacks its keys gives a setting of it the value which it has without the table. -/
theorem IsGiven.field_vacate (h : st.IsGiven) {keys : Section}
    (hall : Section.all.lookup st.table = some keys) (s : Settings) :
    st.field (keys.vacate s) = st.field {} := by
  obtain ⟨keys', k, hall', hk, -, hmissing⟩ := h.own
  obtain rfl := Option.some.inj (hall.symm.trans hall')
  obtain ⟨before, rest, rfl⟩ := List.append_of_mem (mem_of_lookup hk)
  -- the setting gets its value from its key, and the keys after that leave it
  have hnodup := Section.nodup_keys _ (mem_of_lookup hall)
  rw [List.map_append, List.nodup_append] at hnodup
  have hrest : ∀ e ∈ rest, e.2.Leaves st.field := by
    intro e he
    refine (h.other _ (mem_of_lookup hall) e (by simp [he])).resolve_left fun heq => ?_
    exact (List.nodup_cons.1 hnodup.2.1).1 (List.mem_map.2 ⟨e, he, heq.2⟩)
  rw [Section.vacate, List.foldl_append, List.foldl_cons]
  exact (field_vacate_of_leaves hrest _).trans (hmissing _)

/-- Entries of another table leave a setting. -/
theorem IsGiven.field_of_ne (h : st.IsGiven) {table : String} {keys : Section}
    (hall : Section.all.lookup table = some keys) (hne : table ≠ st.table)
    {entries : List (String × Toml)} {s s' : Settings}
    (hs : keys.ofEntries? s entries = some s') : st.field s' = st.field s := by
  induction entries generalizing s with
  | nil =>
    cases hs
    rfl
  | cons e rest ih =>
    rw [Section.ofEntries?] at hs
    cases hkey : keys.lookup e.1 with
    | none =>
      simp only [hkey] at hs
      exact ih hs
    | some k =>
      simp only [hkey] at hs
      obtain ⟨put, hput, hs⟩ := Option.bind_eq_some_iff.1 hs
      rw [ih hs, (h.leaves hall hkey fun heq => hne heq.1).read _ _ hput]

/-- Entries of its table give a setting whose key is among them, and leave it if that is not. -/
theorem IsGiven.field_ofEntries? (h : st.IsGiven) {keys : Section}
    (hall : Section.all.lookup st.table = some keys) {entries : List (String × Toml)}
    (hd : (entries.map (·.1)).Nodup) {s s' : Settings} (hs : keys.ofEntries? s entries = some s') :
    st.field s' = ((entries.lookup st.key).bind st.read).getD (st.field s) := by
  obtain ⟨keys', own, hall', hown, hread, -⟩ := h.own
  obtain rfl := Option.some.inj (hall.symm.trans hall')
  induction entries generalizing s with
  | nil =>
    cases hs
    rfl
  | cons e rest ih =>
    obtain ⟨key, v⟩ := e
    obtain ⟨hnot, hrest⟩ := List.nodup_cons.1 hd
    rw [Section.ofEntries?] at hs
    by_cases heq : key = st.key
    · -- the setting gets its value here, and the other entries leave it
      subst heq
      simp only [hown] at hs
      obtain ⟨put, hput, hs⟩ := Option.bind_eq_some_iff.1 hs
      have hv := hread v s
      rw [hput, Option.map_some] at hv
      rw [ih hrest hs, lookup_of_not_mem hnot, List.lookup_cons_self, Option.bind_some, ← hv]
      rfl
    · rw [List.lookup_cons, beq_false_of_ne (Ne.symm heq)]
      cases hkey : keys.lookup key with
      | none =>
        simp only [hkey] at hs
        exact ih hrest hs
      | some k =>
        simp only [hkey] at hs
        obtain ⟨put, hput, hs⟩ := Option.bind_eq_some_iff.1 hs
        rw [ih hrest hs, (h.leaves hall hkey fun hand => heq hand.2).read _ _ hput]

/-- Another table leaves a setting. -/
theorem IsGiven.field_read?_of_ne (h : st.IsGiven) {table : String} {keys : Section}
    (hall : Section.all.lookup table = some keys) (hne : table ≠ st.table) {s s' : Settings}
    {v : Toml} (hs : keys.read? s v = some s') : st.field s' = st.field s := by
  rw [Section.read?_eq (Section.nodup_keys _ (mem_of_lookup hall))] at hs
  obtain ⟨entries, -, hs⟩ := Option.bind_eq_some_iff.1 hs
  have hleaves : ∀ e ∈ keys, e.2.Leaves st.field := fun e he =>
    (h.other _ (mem_of_lookup hall) e he).resolve_left fun heq => hne heq.1
  rw [h.field_of_ne hall hne hs, field_vacate_of_leaves hleaves]

/-- So do all tables but its own. -/
theorem IsGiven.field_withToml?_of_not_mem (h : st.IsGiven) {doc : List (String × Toml)}
    (hnot : st.table ∉ doc.map (·.1)) {s s' : Settings} (hs : Settings.withToml? s doc = some s') :
    st.field s' = st.field s := by
  induction doc generalizing s with
  | nil =>
    cases hs
    rfl
  | cons e rest ih =>
    obtain ⟨table, v⟩ := e
    obtain ⟨hne, hrest⟩ := not_or.1 (List.mem_cons.not.1 hnot)
    rw [Settings.withToml?] at hs
    cases hall : Section.all.lookup table with
    | none =>
      simp only [hall] at hs
      exact ih hrest hs
    | some keys =>
      simp only [hall] at hs
      obtain ⟨s₁, hread, hs⟩ := Option.bind_eq_some_iff.1 hs
      rw [ih hrest hs, h.field_read?_of_ne hall (Ne.symm hne) hread]

/-- A document gives a setting, or else that stays what it is without a document. -/
theorem IsGiven.field_withToml? (h : st.IsGiven) {doc : List (String × Toml)}
    (hkeys : (doc.map (·.1)).Nodup) (hbelow : ∀ e ∈ doc, e.2.IsDistinct) {s s' : Settings}
    (hstart : st.field s = st.field {}) (hs : Settings.withToml? s doc = some s') :
    st.field s' = (st.inFile? doc).getD (st.field {}) := by
  induction doc generalizing s with
  | nil =>
    cases hs
    obtain ⟨keys, -, hall, -⟩ := h.own
    simp [inFile?, Settings.value?, hall, hstart]
  | cons e rest ih =>
    obtain ⟨table, v⟩ := e
    obtain ⟨hnot, hrest⟩ := List.nodup_cons.1 hkeys
    have hbelow' : ∀ e ∈ rest, e.2.IsDistinct := fun e he => hbelow e (by simp [he])
    rw [Settings.withToml?] at hs
    by_cases heq : table = st.table
    · -- its table gives the setting, also if its key is missing there, and the others leave it
      subst heq
      obtain ⟨keys, -, hall, -⟩ := h.own
      simp only [hall] at hs
      obtain ⟨s₁, hread, hs⟩ := Option.bind_eq_some_iff.1 hs
      have hnodup := Section.nodup_keys (st.table, keys) (mem_of_lookup hall)
      rw [Section.read?_eq hnodup] at hread
      obtain ⟨entries, hentries, hs₁⟩ := Option.bind_eq_some_iff.1 hread
      have hd := Section.nodup_entriesOf? hnodup (hbelow (st.table, v) (by simp)) hentries
      have hfile : st.inFile? ((st.table, v) :: rest) = (entries.lookup st.key).bind st.read := by
        simp [inFile?, Settings.value?, hall, hentries]
      rw [h.field_withToml?_of_not_mem hnot hs, hfile, h.field_ofEntries? hall hd hs₁,
        h.field_vacate hall]
    · have hfile : st.inFile? ((table, v) :: rest) = st.inFile? rest := by
        simp [inFile?, Settings.value?, List.lookup_cons, beq_false_of_ne (Ne.symm heq)]
      rw [hfile]
      cases hall : Section.all.lookup table with
      | none =>
        simp only [hall] at hs
        exact ih hrest hbelow' hstart hs
      | some keys =>
        simp only [hall] at hs
        obtain ⟨s₁, hread, hs⟩ := Option.bind_eq_some_iff.1 hs
        exact ih hrest hbelow' ((h.field_read?_of_ne hall heq hread).trans hstart) hs

/-- **A setting is the value which a file has for its key**, or else its default. -/
theorem IsGiven.field_ofText? (h : st.IsGiven) {text : String} {doc : List (String × Toml)}
    (hdoc : Toml.ofText? text = some doc) {s : Settings} (hs : Settings.ofText? text = some s) :
    st.field s = (st.inFile? doc).getD (st.field {}) := by
  obtain ⟨hkeys, hbelow⟩ := Toml.ofText?_isDistinct hdoc
  rw [Settings.ofText?, hdoc] at hs
  exact h.field_withToml? hkeys hbelow rfl hs

end Setting

end TailnetTargets
