/-
  Printed records, lists and maps are read again.

  * `Decoder.list_map` and `Decoder.keyMap_entries`: lists and maps as they are printed;
  * `Format.Entry`: a member of a record, and what it changes when it is read;
  * `Format.decode_record`: a record of known members with different names is read as what all of
    them change, one after the other.
-/
import TailnetTargets.Json.Decode

namespace TailnetTargets

namespace KeyMap

variable {α : Type}

theorem insertEntry_of_lt {key : String} (value : α) {entries : List (String × α)}
    (h : ∀ p ∈ entries, p.1 < key) :
    insertEntry key value entries = entries ++ [(key, value)] := by
  induction entries with
  | nil => rfl
  | cons p rest ih =>
    have hp := h p (by simp)
    rw [insertEntry, if_neg (fun hlt => String.lt_irrefl _ (String.lt_trans hlt hp)), if_pos hp,
      ih fun q hq => h q (by simp [hq])]
    rfl

theorem ext_entries {m n : KeyMap α} (h : m.entries = n.entries) : m = n := by
  cases m; cases n; cases h; rfl

end KeyMap

namespace Decoder

variable {α β : Type}

theorem items_map {decoder : Decoder α} {encode : α → Json} {as : List α}
    (h : ∀ a ∈ as, decoder (encode a) = .ok a) : items decoder (as.map encode) = .ok as := by
  induction as with
  | nil => rfl
  | cons a as ih =>
    rw [List.map_cons, items, h a (by simp), ih fun b hb => h b (by simp [hb])]
    rfl

theorem list_map {decoder : Decoder α} {encode : α → Json} {as : List α}
    (h : ∀ a ∈ as, decoder (encode a) = .ok a) :
    list decoder (.list (as.map encode)) = .ok as := by
  rw [Json.list, list, items_map h]
  rfl

/-- Entries in ascending order, behind those which were read already. -/
theorem entries_map {decoder : Decoder α} {encode : α → Json}
    (h : ∀ a, decoder (encode a) = .ok a) {rest : List (String × α)} {m n : KeyMap α}
    (hn : n.entries = m.entries ++ rest) :
    entries decoder m (rest.map fun e => (some e.1, encode e.2)) = .ok n := by
  induction rest generalizing m with
  | nil =>
    rw [List.append_nil] at hn
    rw [KeyMap.ext_entries hn]
    rfl
  | cons e rest ih =>
    have hsorted := n.sorted
    rw [hn] at hsorted
    have hlt : ∀ p ∈ m.entries, p.1 < e.1 :=
      fun p hp => (List.pairwise_append.1 hsorted).2.2 p hp e (by simp)
    have hinsert : n.entries = KeyMap.insertEntry e.1 e.2 m.entries ++ rest := by
      rw [KeyMap.insertEntry_of_lt e.2 hlt, hn]
      simp
    rw [List.map_cons, entries, h e.2]
    exact ih hinsert

theorem keyMap_entries {decoder : Decoder α} {encode : α → Json}
    (h : ∀ a, decoder (encode a) = .ok a) (m : KeyMap α) :
    keyMap decoder (.record (m.entries.map fun e => (e.1, encode e.2))) = .ok m := by
  have hread : entries decoder KeyMap.empty (m.entries.map fun e => (some e.1, encode e.2)) =
      .ok m := entries_map h rfl
  rw [Json.record, keyMap, List.map_map]
  simp only [Function.comp_def, hread]
  rfl

end Decoder

/-- A member of a record is read into its field. -/
theorem Format.readMembers_cons {α : Type} {fmt : Format α} {seen : List String} {record : α}
    {key : String} {value : Json} {rest : List (Option String × Json)} {f : Field α} {put : α → α}
    (hf : fmt.field? key = some f) (hseen : f.name ∉ seen) (hput : f.read value = .ok put) :
    fmt.readMembers seen record ((some key, value) :: rest) =
      fmt.readMembers (f.name :: seen) (put record) rest := by
  simp [Format.readMembers, Decoder.key, hf, hseen, hput, bind, Except.bind]

namespace Format

/-- A member of a record, and what it changes when it is read. -/
structure Entry (α : Type) where
  /-- the name of the field -/
  name : String
  /-- the value -/
  value : Json
  /-- what the value changes -/
  put : α → α

variable {α : Type} {fmt : Format α} {entries : List (Entry α)}

/-- Whether an entry is read as a field of a record. -/
def Entry.IsReadBy (e : Entry α) (fmt : Format α) : Prop :=
  ∃ f, fmt.field? e.name = some f ∧ f.name = e.name ∧ f.read e.value = .ok e.put

/-- The record after entries were read. -/
def putAll (record : α) (entries : List (Entry α)) : α :=
  entries.foldl (fun record e => e.put record) record

theorem readMembers_entries (h : ∀ e ∈ entries, e.IsReadBy fmt)
    (hnames : (entries.map Entry.name).Nodup) {seen : List String}
    (hseen : ∀ e ∈ entries, e.name ∉ seen) (record : α) :
    fmt.readMembers seen record (entries.map fun e => (some e.name, e.value)) =
      .ok ((entries.map Entry.name).reverse ++ seen, putAll record entries) := by
  induction entries generalizing seen record with
  | nil => rfl
  | cons e entries ih =>
    obtain ⟨f, hf, hname, hput⟩ := h e (by simp)
    obtain ⟨hnew, hnames⟩ := List.nodup_cons.1 hnames
    have hseen' : ∀ e' ∈ entries, e'.name ∉ e.name :: seen := by
      intro e' he' hmem
      rcases List.mem_cons.1 hmem with heq | hmem
      · exact hnew (heq ▸ List.mem_map_of_mem he')
      · exact hseen e' (by simp [he']) hmem
    rw [List.map_cons, readMembers_cons hf (hname ▸ hseen e (by simp)) hput, hname,
      ih (fun e' he' => h e' (by simp [he'])) hnames hseen']
    simp [putAll]

theorem decode_record (h : ∀ e ∈ entries, e.IsReadBy fmt)
    (hnames : (entries.map Entry.name).Nodup)
    (hmissing : fmt.missing? (entries.map Entry.name).reverse = none) :
    fmt.decode (.record (entries.map fun e => (e.name, e.value))) =
      .ok (putAll fmt.start entries) := by
  have hseen : ∀ e ∈ entries, e.name ∉ [] := by simp
  have hread := readMembers_entries h hnames hseen fmt.start
  rw [List.append_nil] at hread
  rw [Json.record, decode, List.map_map]
  simp only [Function.comp_def, hread, bind, Except.bind, Decoder.ended, hmissing]

end Format

end TailnetTargets
