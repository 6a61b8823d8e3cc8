/-
  What each field of a record tells about the document which it was read from.

  * `Json.values`: the values which a document has for a field: those of the members of its name, or
    the item in its place;
  * `Format.IsPlain`: a format whose fields have different names, and no second ones;
  * `Decoder.Gives`: what is read of the values of a field, of which there is at most one;
  * `Field.Shows`: what the reading of a field does to a part of the record;
  * `Format.gives_of_decode`: **a part of a record which one field alone changes is what is read of
    the values of that field**, whether the record is an object or an array;
  * `Json.IsLast`: the last value of a key among members, and `Decoder.exists_of_entries`: a map
    holds the last value of each key.
-/
import Mathlib.Data.List.Nodup
import TailnetTargets.Proofs.Json.Members

namespace TailnetTargets

namespace Json

/-- The values which a document has for a field of a record with fields of these names. -/
def values (names : List String) (name : String) : Json → List Json
  | .object members _ => (members.filter fun m => m.1 = some name).map (·.2)
  | .array items _ => items[names.idxOf name]?.toList
  | _ => []

theorem values_object_cons (names : List String) (name key : String) (value : Json)
    (rest : List (Option String × Json)) (ending : Option Flaw) :
    values names name (.object ((some key, value) :: rest) ending) =
      if key = name then value :: values names name (.object rest ending)
      else values names name (.object rest ending) := by
  simp only [values, List.filter_cons]
  split <;> simp_all

/-- The items of an array. -/
def items : Json → List Json
  | .array items _ => items
  | _ => []

/-- The members of an object. -/
def members : Json → List (Option String × Json)
  | .object members _ => members
  | _ => []

/-- The last value of a key among members. -/
def IsLast (members : List (Option String × Json)) (key : String) (value : Json) : Prop :=
  ∃ before after, members = before ++ (some key, value) :: after ∧
    ∀ later, (some key, later) ∉ after

end Json

/-- What is read of the values of a field: its default, if there are none. -/
inductive Decoder.Gives {β : Type} (decoder : Decoder β) (default : β) : List Json → β → Prop
  | absent : Gives decoder default [] default
  | single {value : Json} {b : β} (h : decoder value = .ok b) : Gives decoder default [value] b

theorem Decoder.Gives.eq_default {β : Type} {decoder : Decoder β} {default b : β}
    (h : decoder.Gives default [] b) : b = default := by
  cases h
  rfl

theorem Decoder.Gives.unique {β : Type} {decoder : Decoder β} {default b b' : β}
    {values : List Json} (h : decoder.Gives default values b)
    (h' : decoder.Gives default values b') : b = b' := by
  cases h with
  | absent => exact h'.eq_default.symm
  | single hb =>
    cases h' with
    | single hb' => exact Except.ok.inj (hb.symm.trans hb')

/-- What the reading of a field does to a part of the record: it sets the part to what the decoder
    reads, if the field has the name, and it changes nothing of the part otherwise. -/
structure Field.Shows {α β : Type} (name : String) (decoder : Decoder β) (get : α → β)
    (f : Field α) : Prop where
  own : f.name = name → ∀ value put, f.read value = .ok put →
    ∃ b, decoder value = .ok b ∧ ∀ record, get (put record) = b
  other : f.name ≠ name → ∀ value put, f.read value = .ok put →
    ∀ record, get (put record) = get record

namespace Field

variable {α β γ : Type} {name : String} {decoder : Decoder β} {get : α → β}

theorem shows_own {put : β → α → α} (h : ∀ b record, get (put b record) = b) :
    (decoder.field name put).Shows name decoder get where
  own _ value p hp := by
    obtain ⟨b, hb, rfl⟩ := Except.map_eq_ok hp
    exact ⟨b, hb, h b⟩
  other hne := absurd rfl hne

theorem shows_other {name' : String} {decoder' : Decoder γ} {put : γ → α → α} (hne : name' ≠ name)
    (h : ∀ c record, get (put c record) = get record) :
    (decoder'.field name' put).Shows name decoder get where
  own heq := absurd heq hne
  other _ value p hp := by
    obtain ⟨c, -, rfl⟩ := Except.map_eq_ok hp
    exact h c

end Field

namespace Format

variable {α β : Type} {fmt : Format α} {names : List String} {name : String} {decoder : Decoder β}
  {get : α → β}

/-- The fields of a format have these names, all of them different, and no second ones. -/
structure IsPlain (fmt : Format α) (names : List String) : Prop where
  names_eq : fmt.fields.map (·.name) = names
  nodup : names.Nodup
  otherName : ∀ f ∈ fmt.fields, f.otherName = none

theorem IsPlain.name_eq (h : fmt.IsPlain names) {key : String} {f : Field α}
    (hf : fmt.field? key = some f) : f.name = key := by
  have hor := List.find?_some hf
  simpa [h.otherName f (mem_of_field? hf)] using hor

theorem IsPlain.field?_eq_none (h : fmt.IsPlain names) {key : String} :
    fmt.field? key = none ↔ key ∉ names := by
  rw [← h.names_eq, field?, List.find?_eq_none, List.mem_map]
  constructor
  · rintro hnone ⟨f, hf, rfl⟩
    exact hnone f hf (by simp)
  · intro hnot f hf hor
    have hname : f.name = key := by simpa [h.otherName f hf] using hor
    exact hnot ⟨f, hf, hname⟩

section
variable {members : List (Option String × Json)} {read : List String} {change : α → α}

/-- A field which was not read has no value. -/
theorem Makes.values_eq_nil (hplain : fmt.IsPlain names) (hname : name ∈ names)
    (h : fmt.Makes members read change) (hnot : name ∉ read) (ending : Option Flaw) :
    Json.values names name (.object members ending) = [] := by
  rw [Json.values, List.map_eq_nil_iff, List.filter_eq_nil_iff]
  rintro ⟨key, value⟩ hmem hkey
  obtain rfl : key = some name := by simpa using hkey
  cases hf : fmt.field? name with
  | none => exact hplain.field?_eq_none.1 hf hname
  | some f => exact hnot (h.mem_names.2 ⟨name, value, f, hmem, hf, hplain.name_eq hf⟩)

/-- What the members of an object make of a part of the record. -/
theorem Makes.gives (hplain : fmt.IsPlain names) (hname : name ∈ names)
    (hshows : ∀ f ∈ fmt.fields, f.Shows name decoder get) (h : fmt.Makes members read change)
    (record : α) (ending : Option Flaw) :
    decoder.Gives (get record) (Json.values names name (.object members ending))
      (get (change record)) := by
  induction h generalizing record with
  | nil => exact .absent
  | @field key value rest f read put change hf hnew hread h ih =>
    obtain rfl := hplain.name_eq hf
    have hf' := hshows f (mem_of_field? hf)
    rw [Json.values_object_cons]
    split
    · next heq =>
      -- no member behind this one has the name
      obtain ⟨b, hb, hput⟩ := hf'.own heq value put hread
      have hrest := ih (put record)
      have hnil := h.values_eq_nil hplain hname (heq ▸ hnew) ending
      rw [hnil, hput] at hrest
      rw [hnil, Function.comp_apply, hrest.eq_default]
      exact .single hb
    · next hne =>
      have hrest := ih (put record)
      rwa [hf'.other hne value put hread] at hrest
  | @other key value rest read change hf hskip h ih =>
    have hne : key ≠ name := by
      rintro rfl
      exact hplain.field?_eq_none.1 hf hname
    rw [Json.values_object_cons, if_neg hne]
    exact ih record

end

section
variable {ending : Option Flaw} {fields : List (Field α)} {items : List Json} {record record' : α}

theorem readItems_nil (h : readItems record ending fields [] = .ok record') : record' = record := by
  induction fields with
  | nil =>
    obtain ⟨_, -, h⟩ := Except.bind_eq_ok h
    cases h
    rfl
  | cons f fields ih =>
    obtain ⟨_, -, h⟩ := Except.bind_eq_ok h
    split at h
    · cases h
    · exact ih h

/-- Items of other fields change nothing of a part of the record. -/
theorem readItems_other (hshows : ∀ f ∈ fields, f.Shows name decoder get)
    (hname : name ∉ fields.map (·.name))
    (h : readItems record ending fields items = .ok record') : get record' = get record := by
  induction fields generalizing items record with
  | nil =>
    cases items with
    | nil => rw [readItems_nil h]
    | cons => cases h
  | cons f fields ih =>
    obtain ⟨hf, hfields⟩ := List.forall_mem_cons.1 hshows
    obtain ⟨hne, hname⟩ : name ≠ f.name ∧ name ∉ fields.map (·.name) := by simpa using hname
    cases items with
    | nil => rw [readItems_nil h]
    | cons value items =>
      obtain ⟨put, hread, h⟩ := Except.bind_eq_ok h
      rw [ih hfields hname h, hf.other hne.symm value put hread]

/-- What the items of an array make of a part of the record. -/
theorem readItems_gives (hshows : ∀ f ∈ fields, f.Shows name decoder get)
    (hnodup : (fields.map (·.name)).Nodup) (hname : name ∈ fields.map (·.name))
    (h : readItems record ending fields items = .ok record') :
    decoder.Gives (get record) (items[(fields.map (·.name)).idxOf name]?.toList) (get record') := by
  induction fields generalizing items record with
  | nil => cases hname
  | cons f fields ih =>
    obtain ⟨hf, hfields⟩ := List.forall_mem_cons.1 hshows
    obtain ⟨hnew, hnodup⟩ := List.nodup_cons.1 hnodup
    cases items with
    | nil =>
      rw [readItems_nil h]
      exact .absent
    | cons value items =>
      obtain ⟨put, hread, h⟩ := Except.bind_eq_ok h
      rw [List.map_cons, List.idxOf_cons]
      by_cases heq : f.name = name
      · obtain ⟨b, hb, hput⟩ := hf.own heq value put hread
        rw [readItems_other hfields (heq ▸ hnew) h, hput]
        rw [beq_of_eq heq]
        exact .single hb
      · have hmem : name ∈ fields.map (·.name) := by
          simpa [Ne.symm heq] using hname
        have hrest := ih hfields hnodup hmem h
        rw [hf.other heq value put hread] at hrest
        rw [beq_false_of_ne heq]
        exact hrest

end

/-- **A part of a record which one field alone changes is what is read of the values of that
    field.** -/
theorem gives_of_decode (hplain : fmt.IsPlain names) (hname : name ∈ names)
    (hshows : ∀ f ∈ fmt.fields, f.Shows name decoder get) {default : β}
    (hstart : get fmt.start = default) {value : Json} {record : α}
    (h : fmt.decode value = .ok record) :
    decoder.Gives default (value.values names name) (get record) := by
  subst hstart
  cases value with
  | object members ending =>
    obtain ⟨-, read, change, hmakes, -, rfl⟩ := decode_object.1 h
    exact hmakes.gives hplain hname hshows fmt.start ending
  | array items ending =>
    obtain ⟨rfl, hnodup, -⟩ := hplain
    exact readItems_gives hshows hnodup hname h
  | null | bool | number | text | broken => cases h

end Format

/-! ## Lists and maps -/

namespace Decoder

variable {α : Type} {decoder : Decoder α}

theorem nullable_of_ne {value : Json} (h : value ≠ .null) :
    nullable decoder value = (decoder value).map some := by
  cases value <;> first | rfl | exact absurd rfl h

/-- A list is read from an array with its closing bracket. -/
theorem forall₂_of_list {value : Json} {as : List α} (h : list decoder value = .ok as) :
    List.Forall₂ (fun v a => decoder v = .ok a) value.items as := by
  cases value with
  | array items ending =>
    obtain ⟨as', has, h⟩ := Except.bind_eq_ok h
    obtain ⟨_, -, h⟩ := Except.bind_eq_ok h
    cases h
    exact items_eq_ok.1 has
  | null | bool | number | text | object | broken => cases h

/-- A value which may be missing is read of one value, or there is nothing but `null`. -/
theorem Gives.of_nullable {values : List Json} {a? : Option α}
    (h : (nullable decoder).Gives none values a?) :
    (a? = none ∧ (values = [] ∨ values = [.null])) ∨
      ∃ value a, values = [value] ∧ decoder value = .ok a ∧ a? = some a := by
  cases h with
  | absent => exact Or.inl ⟨rfl, Or.inl rfl⟩
  | @single value _ h =>
    by_cases hnull : value = .null
    · subst hnull
      cases h
      exact Or.inl ⟨rfl, Or.inr rfl⟩
    · rw [nullable_of_ne hnull] at h
      obtain ⟨a, ha, rfl⟩ := Except.map_eq_ok h
      exact Or.inr ⟨value, a, rfl, ha, rfl⟩

/-- A list which may be missing has an element for each item. -/
theorem Gives.forall₂ {values : List Json} {as : Option (List α)}
    (h : (nullable (list decoder)).Gives none values as) :
    List.Forall₂ (fun v a => decoder v = .ok a) (values.flatMap Json.items) (as.getD []) := by
  rcases h.of_nullable with ⟨rfl, rfl | rfl⟩ | ⟨value, as, rfl, has, rfl⟩
  · exact .nil
  · exact .nil
  · rw [List.flatMap_singleton]
    exact forall₂_of_list has

theorem entries_cons_eq_ok {e : Option String × Json} {members : List (Option String × Json)}
    {m n : KeyMap α} :
    entries decoder m (e :: members) = .ok n ↔ ∃ key a, e.1 = some key ∧ decoder e.2 = .ok a ∧
      entries decoder (m.insert key a) members = .ok n := by
  obtain ⟨_ | key, value⟩ := e
  · simp [entries, Decoder.key, bind, Except.bind]
  · simp only [entries, Decoder.key, bind, Except.bind]
    cases decoder value <;> simp

/-- A map is read from an object with its closing bracket. -/
theorem entries_of_keyMap {value : Json} {m : KeyMap α} (h : keyMap decoder value = .ok m) :
    entries decoder KeyMap.empty value.members = .ok m := by
  cases value with
  | object members ending =>
    obtain ⟨m', hm', h⟩ := Except.bind_eq_ok h
    obtain ⟨_, -, h⟩ := Except.bind_eq_ok h
    cases h
    exact hm'
  | null | bool | number | text | array | broken => cases h

/-- A map which may be missing has the entries which are read of the members. -/
theorem Gives.entries {values : List Json} {m : Option (KeyMap α)}
    (h : (nullable (keyMap decoder)).Gives none values m) :
    Decoder.entries decoder KeyMap.empty (values.flatMap Json.members) =
      .ok (m.getD KeyMap.empty) := by
  rcases h.of_nullable with ⟨rfl, rfl | rfl⟩ | ⟨value, m, rfl, hm, rfl⟩
  · rfl
  · rfl
  · rw [List.flatMap_singleton]
    exact entries_of_keyMap hm

/-- A key has its last value, or the one which it had before. -/
theorem exists_of_entries {members : List (Option String × Json)} {m n : KeyMap α}
    (h : Decoder.entries decoder m members = .ok n) (key : String) :
    (∃ value a, Json.IsLast members key value ∧ decoder value = .ok a ∧ n.get? key = some a) ∨
      ((∀ value, (some key, value) ∉ members) ∧ n.get? key = m.get? key) := by
  induction members generalizing m with
  | nil =>
    cases h
    exact Or.inr ⟨by simp, rfl⟩
  | cons e members ih =>
    obtain ⟨_, value⟩ := e
    obtain ⟨k, a, rfl, ha, h⟩ := entries_cons_eq_ok.1 h
    rcases ih h with ⟨w, b, ⟨before, after, rfl, hlast⟩, hb, hget⟩ | ⟨hnone, hget⟩
    · exact Or.inl ⟨w, b, ⟨(some k, value) :: before, after, rfl, hlast⟩, hb, hget⟩
    · rw [KeyMap.get?_insert] at hget
      split at hget
      · next heq =>
        subst heq
        exact Or.inl ⟨value, a, ⟨[], members, rfl, hnone⟩, ha, hget⟩
      · next hne =>
        exact Or.inr ⟨fun w hmem => by simp_all, hget⟩

/-- The value of every member is read, also where a later one takes its place. -/
theorem exists_of_mem_entries {members : List (Option String × Json)} {m n : KeyMap α}
    (h : Decoder.entries decoder m members = .ok n) {e : Option String × Json}
    (he : e ∈ members) : ∃ a, decoder e.2 = .ok a := by
  induction members generalizing m with
  | nil => cases he
  | cons e' members ih =>
    obtain ⟨k, a, -, ha, h⟩ := entries_cons_eq_ok.1 h
    rcases List.mem_cons.1 he with rfl | he
    · exact ⟨a, ha⟩
    · exact ih h he

end Decoder

end TailnetTargets
