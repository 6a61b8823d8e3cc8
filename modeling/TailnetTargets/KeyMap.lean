/-
  Finite maps from texts, in ascending order of their keys.

  * `KeyMap α`: the entries, where every key is less than the next one;
  * `insert` gives a key its value, in place of the one it had;
  * `ofList` inserts pairs one after the other, so that the last value of a key counts;
  * `get?` looks a key up, `filter` keeps some of the entries.

  `get?_insert`: an insertion changes the value of its own key and of no other.

  The order of texts is that of their characters, which is also the order of their UTF-8 bytes.
-/

namespace TailnetTargets

/-- A finite map from texts, in ascending order of its keys. -/
structure KeyMap (α : Type) where
  /-- the keys with their values -/
  entries : List (String × α)
  /-- every key is less than the keys after it -/
  sorted : entries.Pairwise fun p q => p.1 < q.1
deriving DecidableEq

namespace KeyMap

variable {α : Type}

/-- Entries with the value of one key set. -/
def insertEntry (key : String) (value : α) : List (String × α) → List (String × α)
  | [] => [(key, value)]
  | entry :: rest =>
    if key < entry.1 then (key, value) :: entry :: rest
    else if entry.1 < key then entry :: insertEntry key value rest
    else (key, value) :: rest

/-- Setting a key adds no other one. -/
theorem of_mem_insertEntry {key : String} {value : α} {entries : List (String × α)}
    {p : String × α} (h : p ∈ insertEntry key value entries) : p = (key, value) ∨ p ∈ entries := by
  induction entries with
  | nil => simpa [insertEntry] using h
  | cons entry rest ih =>
    simp only [insertEntry] at h
    split at h
    · simpa using h
    · split at h
      · rcases List.mem_cons.1 h with h | h
        · simp [h]
        · rcases ih h with h | h <;> simp [h]
      · rcases List.mem_cons.1 h with h | h <;> simp [h]

/-- Setting a key keeps the order. -/
theorem pairwise_insertEntry (key : String) (value : α) {entries : List (String × α)}
    (h : entries.Pairwise fun p q => p.1 < q.1) :
    (insertEntry key value entries).Pairwise fun p q => p.1 < q.1 := by
  induction entries with
  | nil => simp [insertEntry]
  | cons entry rest ih =>
    obtain ⟨hhead, htail⟩ := List.pairwise_cons.1 h
    simp only [insertEntry]
    split
    · next hlt =>
      refine List.pairwise_cons.2 ⟨fun p hp => ?_, h⟩
      rcases List.mem_cons.1 hp with rfl | hp
      · exact hlt
      · exact String.lt_trans hlt (hhead p hp)
    · next hnlt =>
      split
      · next hgt =>
        refine List.pairwise_cons.2 ⟨fun p hp => ?_, ih htail⟩
        rcases of_mem_insertEntry hp with rfl | hp
        · exact hgt
        · exact hhead p hp
      · next hngt =>
        have heq : key = entry.1 := String.le_antisymm hngt hnlt
        exact List.pairwise_cons.2 ⟨fun p hp => heq ▸ hhead p hp, htail⟩

/-- The map without entries. -/
def empty : KeyMap α := ⟨[], List.Pairwise.nil⟩

instance : Inhabited (KeyMap α) := ⟨empty⟩

instance : EmptyCollection (KeyMap α) := ⟨empty⟩

/-- The map with the value of one key set. -/
def insert (m : KeyMap α) (key : String) (value : α) : KeyMap α :=
  ⟨insertEntry key value m.entries, pairwise_insertEntry key value m.sorted⟩

/-- The map of pairs, where the last value of a key counts. -/
def ofList (pairs : List (String × α)) : KeyMap α :=
  pairs.foldl (fun m p => m.insert p.1 p.2) empty

/-- The value of a key. -/
def get? (m : KeyMap α) (key : String) : Option α := m.entries.lookup key

/-- The keys in ascending order. -/
def keys (m : KeyMap α) : List String := m.entries.map (·.1)

/-- Whether the map has no entry. -/
def isEmpty (m : KeyMap α) : Bool := m.entries.isEmpty

/-- The entries which a condition on key and value keeps. -/
def filter (m : KeyMap α) (keep : String → α → Bool) : KeyMap α :=
  ⟨m.entries.filter fun p => keep p.1 p.2, m.sorted.filter _⟩

/-- A look-up takes the first entry of its key. -/
theorem lookup_entry (k e : String) (v : α) (rest : List (String × α)) :
    ((e, v) :: rest).lookup k = if k = e then some v else rest.lookup k := by
  by_cases h : k = e
  · simp [h]
  · have hb : (k == e) = false := by simpa using h
    simp [List.lookup_cons, h, hb]

/-- The look-up after a key was set among entries. -/
theorem lookup_insertEntry (key : String) (value : α) (k : String) (entries : List (String × α)) :
    (insertEntry key value entries).lookup k =
      if k = key then some value else entries.lookup k := by
  induction entries with
  | nil => simp [insertEntry, lookup_entry]
  | cons entry rest ih =>
    obtain ⟨e, v⟩ := entry
    simp only [insertEntry]
    split
    · rw [lookup_entry]
    · next hnlt =>
      split
      · next hgt =>
        rw [lookup_entry, lookup_entry, ih]
        have hne : e ≠ key := fun h => String.lt_irrefl _ (h ▸ hgt)
        grind
      · next hngt =>
        have heq : key = e := String.le_antisymm hngt hnlt
        rw [lookup_entry, lookup_entry]
        grind

/-- An insertion changes the value of its own key and of no other. -/
theorem get?_insert (m : KeyMap α) (key : String) (value : α) (k : String) :
    (m.insert key value).get? k = if k = key then some value else m.get? k :=
  lookup_insertEntry key value k m.entries

end KeyMap

end TailnetTargets
