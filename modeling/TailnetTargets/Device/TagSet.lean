/-
  Sets of tags, in ascending order.

  * `TagSet`: tags of which each is less than the next one, so that every set has one form;
  * `insert` adds a tag, `ofList` adds the tags of a list.

  `mem_ofList`: a set made of a list holds exactly its elements.
-/

namespace TailnetTargets

/-- A set of tags in ascending order. -/
structure TagSet where
  /-- the tags -/
  toList : List String
  /-- every tag is less than the tags after it -/
  sorted : toList.Pairwise (· < ·)
deriving DecidableEq

namespace TagSet

/-- Sorted tags and one more. -/
def insertTag (tag : String) : List String → List String
  | [] => [tag]
  | t :: rest =>
    if tag < t then tag :: t :: rest
    else if t < tag then t :: insertTag tag rest
    else t :: rest

/-- The tags after one was added are that one and the earlier ones. -/
theorem mem_insertTag {tag : String} {tags : List String} {t : String} :
    t ∈ insertTag tag tags ↔ t = tag ∨ t ∈ tags := by
  induction tags with
  | nil => simp [insertTag]
  | cons u rest ih =>
    simp only [insertTag]
    split
    · simp
    · next hnlt =>
      split
      · simp only [List.mem_cons, ih]
        grind
      · next hngt =>
        have heq : tag = u := String.le_antisymm hngt hnlt
        simp [heq]

/-- Adding a tag keeps the order. -/
theorem pairwise_insertTag (tag : String) {tags : List String} (h : tags.Pairwise (· < ·)) :
    (insertTag tag tags).Pairwise (· < ·) := by
  induction tags with
  | nil => simp [insertTag]
  | cons u rest ih =>
    obtain ⟨hhead, htail⟩ := List.pairwise_cons.1 h
    simp only [insertTag]
    split
    · next hlt =>
      refine List.pairwise_cons.2 ⟨fun t ht => ?_, h⟩
      rcases List.mem_cons.1 ht with rfl | ht
      · exact hlt
      · exact String.lt_trans hlt (hhead t ht)
    · split
      · next hgt =>
        refine List.pairwise_cons.2 ⟨fun t ht => ?_, ih htail⟩
        rcases mem_insertTag.1 ht with rfl | ht
        · exact hgt
        · exact hhead t ht
      · exact h

/-- The set without tags. -/
def empty : TagSet := ⟨[], List.Pairwise.nil⟩

instance : Inhabited TagSet := ⟨empty⟩

instance : EmptyCollection TagSet := ⟨empty⟩

/-- The set with one tag more. -/
def insert (tags : TagSet) (tag : String) : TagSet :=
  ⟨insertTag tag tags.toList, pairwise_insertTag tag tags.sorted⟩

/-- The set of the elements of a list. -/
def ofList (tags : List String) : TagSet := tags.foldl insert empty

/-- The tags after the elements of a list were added. -/
theorem mem_foldl_insert {tags : List String} {s : TagSet} {t : String} :
    t ∈ (tags.foldl insert s).toList ↔ t ∈ s.toList ∨ t ∈ tags := by
  induction tags generalizing s with
  | nil => simp
  | cons u rest ih =>
    simp only [List.foldl_cons, ih, insert, mem_insertTag, List.mem_cons]
    grind

/-- A set made of a list holds exactly its elements. -/
theorem mem_ofList {tags : List String} {t : String} : t ∈ (ofList tags).toList ↔ t ∈ tags := by
  simp [ofList, mem_foldl_insert, empty]

end TagSet

end TailnetTargets
