/-
  The labels of tags.

  * `Text.isUpper_of_mem_lowerAfter`: lower-casing leaves no capital ASCII letter, and
    `Text.lowerAfter_ascii`: in ASCII it goes character by character;
  * `Label.IsBare`: what is left of a tag when its marker is taken off once;
  * `Label.normalTagName_eq_emptyTag`: only a tag of which nothing is left is called `EMPTY`;
  * `Label.Matches`: characters which a label does not tell apart;
  * `Label.IsLabelName`: the names which a collector of measurements accepts for a label;
  * `Label.ofTag_named`: **the name of a tag in its label, when two tags share a label, and that
    labels are label names**.
-/
import Mathlib.Data.List.Forall2
import TailnetTargets.Target.Label

namespace TailnetTargets

namespace Text

/-! ## Lower-casing -/

/-- No lower-case form of the table is a capital ASCII letter. -/
theorem lt_image {r : LowerRun} (h : r ∈ lowerRuns) : 'Z'.toNat < r.image := by
  revert r
  decide +kernel

/-- What can be checked of the ASCII characters one by one holds of them. -/
theorem forall_ascii {P : Char → Prop} (h : ∀ n < 128, P (Char.ofNat n)) {c : Char}
    (hc : c.toNat < 128) : P c := by
  have hn := h c.toNat hc
  rwa [Char.ofNat_toNat] at hn

theorem isUpper_iff {c : Char} : c.isUpper = true ↔ 'A'.toNat ≤ c.toNat ∧ c.toNat ≤ 'Z'.toNat :=
  decide_eq_true_iff

theorem toNat_lt_of_isUpper {c : Char} (h : c.isUpper) : c.toNat < 128 :=
  Nat.lt_of_le_of_lt (isUpper_iff.1 h).2 (by decide)

theorem toNat_ofNat (n : Nat) : (Char.ofNat n).toNat = n ∨ (Char.ofNat n).toNat = 0 := by
  by_cases h : n.isValidChar
  · rw [Char.ofNat, dif_pos h]
    exact Or.inl rfl
  · rw [Char.ofNat, dif_neg h]
    exact Or.inr rfl

theorem toLower_of_not_isUpper {c : Char} (h : ¬ c.isUpper) : c.toLower = c := by
  unfold Char.toLower
  rw [dif_neg]
  exact fun hc => h (isUpper_iff.2 hc)

theorem toLower_of_isUpper {c : Char} (h : c.isUpper) :
    c.toLower.isUpper = false ∧ c.toLower.isAlpha = true :=
  forall_ascii (P := fun c => c.isUpper → c.toLower.isUpper = false ∧ c.toLower.isAlpha = true)
    (by decide +kernel) (toNat_lt_of_isUpper h) h

theorem isUpper_toLower (c : Char) : c.toLower.isUpper = false := by
  by_cases h : c.isUpper
  · exact (toLower_of_isUpper h).1
  · rw [toLower_of_not_isUpper h]
    exact Bool.eq_false_iff.2 h

theorem isUpper_of_lower? {r : LowerRun} (hr : r ∈ lowerRuns) {c d : Char}
    (h : r.lower? c = some d) : d.isUpper = false := by
  unfold LowerRun.lower? at h
  split at h
  · obtain rfl := Option.some.inj h
    have himage := lt_image hr
    have hA : 0 < 'A'.toNat := by decide
    rw [Bool.eq_false_iff, ne_eq, isUpper_iff]
    rcases toNat_ofNat (r.image + (c.toNat - r.first)) with h | h <;> omega
  · cases h

theorem isUpper_of_mem_lowerChar {c d : Char} (h : d ∈ lowerChar c) : d.isUpper = false := by
  unfold lowerChar at h
  split at h
  · obtain rfl := List.mem_singleton.1 h
    exact isUpper_toLower c
  · next hascii =>
    split at h
    · rcases List.mem_pair.1 h with rfl | rfl <;> decide
    · obtain rfl := List.mem_singleton.1 h
      cases hrun : lowerRuns.findSome? (·.lower? c) with
      | some d =>
        obtain ⟨r, hr, hd⟩ := List.exists_of_findSome?_eq_some hrun
        exact isUpper_of_lower? hr hd
      | none =>
        have hZ : 'Z'.toNat = 90 := rfl
        rw [Option.getD_none, Bool.eq_false_iff, ne_eq, isUpper_iff]
        omega

theorem lowerChar_ne_nil (c : Char) : lowerChar c ≠ [] := by
  unfold lowerChar
  split
  · simp
  · split <;> simp

variable {before cs : List Char}

/-- Lower-casing leaves no capital ASCII letter. -/
theorem isUpper_of_mem_lowerAfter {d : Char} (h : d ∈ lowerAfter before cs) :
    d.isUpper = false := by
  induction cs generalizing before with
  | nil => cases h
  | cons c cs ih =>
    rw [lowerAfter, List.mem_append] at h
    rcases h with h | h
    · split at h
      · -- both forms of the small sigma
        obtain rfl := List.mem_singleton.1 h
        unfold lowerSigma
        split <;> decide
      · exact isUpper_of_mem_lowerChar h
    · exact ih h

theorem lowerAfter_eq_nil : lowerAfter before cs = [] ↔ cs = [] := by
  cases cs with
  | nil => simp [lowerAfter]
  | cons c cs =>
    rw [lowerAfter]
    split <;> simp [lowerChar_ne_nil]

/-- In ASCII every character has a lower-case form of its own. -/
theorem lowerAfter_ascii (h : ∀ c ∈ cs, c.toNat < 128) :
    lowerAfter before cs = cs.map Char.toLower := by
  induction cs generalizing before with
  | nil => rfl
  | cons c cs ih =>
    obtain ⟨hc, hcs⟩ := List.forall_mem_cons.1 h
    have hsigma : c ≠ 'Σ' := by
      rintro rfl
      exact absurd hc (by decide)
    rw [lowerAfter, if_neg hsigma, lowerChar, if_pos hc, ih hcs]
    rfl

end Text

namespace Label

open Text

/-! ## Names of tags -/

/-- What is left of a tag when its marker is taken off, once at most. -/
inductive IsBare : String → String → Prop
  /-- a tag with its marker -/
  | marked (rest : String) : IsBare ("tag:" ++ rest) rest
  /-- a tag without it -/
  | unmarked {tag : String} (h : ¬ "tag:".toList <+: tag.toList) : IsBare tag tag

theorem tagName_of_not_prefix {tag : List Char} (h : ¬ "tag:".toList <+: tag) :
    tagName tag = tag := by
  unfold tagName
  split
  · exact absurd (List.prefix_append _ _) h
  · rfl

theorem IsBare.tagName_eq {tag rest : String} (h : IsBare tag rest) :
    tagName tag.toList = rest.toList := by
  cases h with
  | marked => rw [String.toList_append]; rfl
  | unmarked h => exact tagName_of_not_prefix h

theorem exists_isBare (tag : String) : ∃ rest, IsBare tag rest := by
  by_cases h : "tag:".toList <+: tag.toList
  · obtain ⟨rest, hrest⟩ := h
    have htag : "tag:" ++ String.ofList rest = tag := by
      rw [← String.toList_inj, String.toList_append, @String.toList_ofList rest, hrest]
    exact ⟨String.ofList rest, htag ▸ IsBare.marked (String.ofList rest)⟩
  · exact ⟨tag, .unmarked h⟩

theorem IsBare.eq_empty_iff {tag rest : String} (h : IsBare tag rest) :
    rest = "" ↔ tag = "" ∨ tag = "tag:" := by
  cases h with
  | marked =>
    constructor
    · rintro rfl
      exact Or.inr rfl
    · rintro (h | h)
      · exact absurd (congrArg String.toList h) (by simp)
      · rw [← String.toList_inj, String.toList_append] at h
        simpa using h
  | unmarked hnot =>
    refine ⟨Or.inl, ?_⟩
    rintro (h | rfl)
    · exact h
    · exact absurd (List.prefix_refl _) hnot

/-- The name of a tag before a placeholder is put in for an empty one. -/
def joinedName (tag : List Char) : List Char := (lowerAfter [] (tagName tag)).map joinWords

theorem normalTagName_of_ne {tag : List Char} (h : joinedName tag ≠ []) :
    normalTagName tag = joinedName tag := by
  unfold normalTagName
  split
  · next hnil => exact absurd hnil h
  · rfl

theorem normalTagName_of_eq {tag : List Char} (h : joinedName tag = []) :
    normalTagName tag = emptyTag.toList := by
  unfold joinedName at h
  rw [normalTagName, h]

theorem joinWords_isUpper {c : Char} (h : c.isUpper = false) :
    joinWords c ≠ ':' ∧ joinWords c ≠ '-' ∧ (joinWords c).isUpper = false := by
  unfold joinWords
  split
  · decide
  · next hc =>
    rw [not_or] at hc
    exact ⟨hc.1, hc.2, h⟩

theorem of_mem_joinedName {tag : List Char} {c : Char} (h : c ∈ joinedName tag) :
    c ≠ ':' ∧ c ≠ '-' ∧ c.isUpper = false := by
  obtain ⟨d, hd, rfl⟩ := List.mem_map.1 h
  exact joinWords_isUpper (isUpper_of_mem_lowerAfter hd)

theorem joinedName_eq_nil {tag : List Char} : joinedName tag = [] ↔ tagName tag = [] := by
  rw [joinedName, List.map_eq_nil_iff, lowerAfter_eq_nil]

/-- The placeholder has capital letters, which no name has. -/
theorem joinedName_ne_emptyTag (tag : List Char) : joinedName tag ≠ emptyTag.toList := by
  intro h
  have hE : 'E' ∈ joinedName tag := h ▸ by decide
  exact absurd (of_mem_joinedName hE).2.2 (by decide)

/-- Only a tag of which nothing is left is called `EMPTY`. -/
theorem normalTagName_eq_emptyTag {tag : List Char} :
    normalTagName tag = emptyTag.toList ↔ tagName tag = [] := by
  rw [← joinedName_eq_nil]
  refine ⟨fun h => ?_, normalTagName_of_eq⟩
  by_contra hne
  rw [normalTagName_of_ne hne] at h
  exact joinedName_ne_emptyTag tag h

/-- The placeholder keeps names apart which were different before. -/
theorem normalTagName_eq_iff {tag tag' : List Char} :
    normalTagName tag = normalTagName tag' ↔ joinedName tag = joinedName tag' := by
  have hcross : ∀ {t t' : List Char}, joinedName t = [] → joinedName t' ≠ [] →
      normalTagName t ≠ normalTagName t' := by
    intro t t' ht ht' h
    rw [normalTagName_of_eq ht, normalTagName_of_ne ht'] at h
    exact joinedName_ne_emptyTag t' h.symm
  by_cases h : joinedName tag = [] <;> by_cases h' : joinedName tag' = []
  · simp [normalTagName_of_eq h, normalTagName_of_eq h', h, h']
  · simpa [h, Ne.symm h'] using hcross h h'
  · simpa [h, h'] using (hcross h' h).symm
  · rw [normalTagName_of_ne h, normalTagName_of_ne h']

theorem normalTagName_ne_nil (tag : List Char) : normalTagName tag ≠ [] := by
  by_cases h : joinedName tag = []
  · rw [normalTagName_of_eq h]
    decide
  · rwa [normalTagName_of_ne h]

/-! ## Tags which share a label -/

/-- The characters which may separate the words of a tag. -/
def separators : List Char := [':', '-', '_']

/-- Characters which a label does not tell apart: the same letter in either case, and all
    separators. -/
def Matches (c d : Char) : Prop :=
  c.toLower = d.toLower ∨ (c ∈ separators ∧ d ∈ separators)

theorem joinWords_eq_iff {c d : Char} :
    joinWords c = joinWords d ↔ c = d ∨ (c ∈ separators ∧ d ∈ separators) := by
  unfold joinWords separators
  grind

theorem toLower_mem_separators {c : Char} : c.toLower ∈ separators ↔ c ∈ separators := by
  by_cases hupper : c.isUpper
  · exact forall_ascii (P := fun c => c.toLower ∈ separators ↔ c ∈ separators) (by decide +kernel)
      (toNat_lt_of_isUpper hupper)
  · rw [Text.toLower_of_not_isUpper hupper]

theorem matches_iff (c d : Char) : Matches c d ↔ joinWords c.toLower = joinWords d.toLower := by
  rw [joinWords_eq_iff, toLower_mem_separators, toLower_mem_separators, Matches]

theorem joinedName_eq_iff {tag tag' : List Char} (h : ∀ c ∈ tagName tag, c.toNat < 128)
    (h' : ∀ c ∈ tagName tag', c.toNat < 128) :
    joinedName tag = joinedName tag' ↔ List.Forall₂ Matches (tagName tag) (tagName tag') := by
  rw [joinedName, joinedName, lowerAfter_ascii h, lowerAfter_ascii h', List.map_map, List.map_map,
    ← List.forall₂_eq_eq_eq, List.forall₂_map_left_iff, List.forall₂_map_right_iff]
  simp only [funext₂ fun c d => propext (matches_iff c d), Function.comp_apply]

theorem mem_of_mem_tagName {tag : List Char} {c : Char} (h : c ∈ tagName tag) : c ∈ tag := by
  unfold tagName at h
  split at h
  · simp [h]
  · exact h

/-- Two tags share a label if and only if they have one name. -/
theorem ofTag_inj {tag tag' : String} :
    ofTag tag = ofTag tag' ↔ joinedName tag.toList = joinedName tag'.toList := by
  rw [ofTag, ofTag, String.append_right_inj, String.ofList_inj, normalTagName_eq_iff]

/-! ## Names of labels -/

/-- A character of a label name: an ASCII letter, a digit or an underscore. -/
def IsNameChar (c : Char) : Prop := c.isAlphanum = true ∨ c = '_'

instance (c : Char) : Decidable (IsNameChar c) := inferInstanceAs (Decidable (_ ∨ _))

/-- The names which a collector accepts for a label: they do not start with a digit. -/
inductive IsLabelName : String → Prop
  | mk {c : Char} {cs : List Char} (hfirst : c.isAlpha = true ∨ c = '_')
      (hrest : ∀ d ∈ cs, IsNameChar d) : IsLabelName (String.ofList (c :: cs))

theorem isNameChar_joinWords {c : Char} (h : c.isAlphanum = true ∨ c ∈ separators) :
    IsNameChar (joinWords c.toLower) := by
  unfold joinWords
  split
  · exact Or.inr rfl
  · next hc =>
    rcases h with h | h
    · refine Or.inl ?_
      unfold Char.isAlphanum at h ⊢
      by_cases hupper : c.isUpper
      · rw [(Text.toLower_of_isUpper hupper).2, Bool.true_or]
      · rwa [Text.toLower_of_not_isUpper hupper]
    · have hmem := toLower_mem_separators.2 h
      simp only [separators, List.mem_cons, List.not_mem_nil, or_false] at hmem
      rcases hmem with hcolon | hhyphen | hline
      · exact absurd (Or.inl hcolon) hc
      · exact absurd (Or.inr hhyphen) hc
      · exact Or.inr hline

theorem toNat_lt_of_isAlphanum {c : Char} (h : c.isAlphanum = true ∨ c ∈ separators) :
    c.toNat < 128 := by
  rcases h with h | h
  · have h : (c.isUpper || c.isLower || c.isDigit) = true := h
    rw [Bool.or_eq_true, Bool.or_eq_true] at h
    rcases h with (hupper | hlower) | hdigit
    · exact toNat_lt_of_isUpper hupper
    · have hz : c.val ≤ 'z'.val := of_decide_eq_true (Bool.and_eq_true_iff.1 hlower).2
      exact Nat.lt_of_le_of_lt (UInt32.le_iff_toNat_le.1 hz) (by decide)
    · have h9 : c.val ≤ '9'.val := of_decide_eq_true (Bool.and_eq_true_iff.1 hdigit).2
      exact Nat.lt_of_le_of_lt (UInt32.le_iff_toNat_le.1 h9) (by decide)
  · simp only [separators, List.mem_cons, List.not_mem_nil, or_false] at h
    rcases h with rfl | rfl | rfl <;> decide

theorem isNameChar_of_mem_normalTagName {tag : List Char}
    (h : ∀ c ∈ tag, c.isAlphanum = true ∨ c ∈ separators) {d : Char}
    (hd : d ∈ normalTagName tag) : IsNameChar d := by
  by_cases hempty : joinedName tag = []
  · rw [normalTagName_of_eq hempty] at hd
    have hall : emptyTag.toList.all (fun d => decide (IsNameChar d)) = true := by decide +kernel
    exact of_decide_eq_true (List.all_eq_true.1 hall d hd)
  · have hname : ∀ c ∈ tagName tag, c.isAlphanum = true ∨ c ∈ separators :=
      fun c hc => h c (mem_of_mem_tagName hc)
    have hascii : ∀ c ∈ tagName tag, c.toNat < 128 :=
      fun c hc => toNat_lt_of_isAlphanum (hname c hc)
    rw [normalTagName_of_ne hempty, joinedName, lowerAfter_ascii hascii, List.map_map] at hd
    obtain ⟨c, hc, rfl⟩ := List.mem_map.1 hd
    exact isNameChar_joinWords (hname c hc)

theorem isLabelName_ofTag {tag : String}
    (h : ∀ c ∈ tag.toList, c.isAlphanum = true ∨ c ∈ separators) : IsLabelName (ofTag tag) := by
  have hstem : tagStem.toList.all (fun d => decide (IsNameChar d)) = true := by decide +kernel
  have hlabel : ofTag tag =
      String.ofList ('_' :: (tagStem.toList.tail ++ normalTagName tag.toList)) := by
    rw [← String.toList_inj, ofTag, String.toList_append]
    simp [tagStem]
  rw [hlabel]
  refine .mk (Or.inr rfl) fun d hd => ?_
  rcases List.mem_append.1 hd with hd | hd
  · exact of_decide_eq_true (List.all_eq_true.1 hstem d (List.mem_of_mem_tail hd))
  · exact isNameChar_of_mem_normalTagName h hd

/-- **The name of a tag in its label**: it is never empty, it is the placeholder only where nothing
    is left of the tag, and otherwise it has no colon, no hyphen and no capital ASCII letter.  Two
    ASCII tags share a label if and only if what is left of them matches character by character.
    The label of a tag of ASCII letters, digits and separators is a label name. -/
theorem ofTag_named :
    (∀ tag : String, ∃ name : String, ofTag tag = tagStem ++ name ∧ name ≠ "" ∧
      (name = emptyTag ↔ tag = "" ∨ tag = "tag:") ∧
      (name = emptyTag ∨ ∀ c ∈ name.toList, c ≠ ':' ∧ c ≠ '-' ∧ c.isUpper = false)) ∧
    (∀ tag : String, ∃! rest, IsBare tag rest) ∧
    (∀ tag tag' rest rest' : String, (∀ c ∈ tag.toList, c.toNat < 128) →
      (∀ c ∈ tag'.toList, c.toNat < 128) → IsBare tag rest → IsBare tag' rest' →
      (ofTag tag = ofTag tag' ↔ List.Forall₂ Matches rest.toList rest'.toList)) ∧
    ∀ tag : String, (∀ c ∈ tag.toList, c.isAlphanum = true ∨ c ∈ separators) →
      IsLabelName (ofTag tag) := by
  refine ⟨fun tag => ?_, fun tag => ?_, ?_, fun tag => isLabelName_ofTag⟩
  · obtain ⟨rest, hrest⟩ := exists_isBare tag
    have hempty : tagName tag.toList = [] ↔ tag = "" ∨ tag = "tag:" := by
      rw [hrest.tagName_eq, String.toList_eq_nil_iff, hrest.eq_empty_iff]
    refine ⟨String.ofList (normalTagName tag.toList), rfl, ?_, ?_, ?_⟩
    · rw [ne_eq, ← String.toList_eq_nil_iff, String.toList_ofList]
      exact normalTagName_ne_nil _
    · rw [← hempty, ← normalTagName_eq_emptyTag, ← String.toList_inj, String.toList_ofList]
    · rw [← String.toList_inj, String.toList_ofList]
      by_cases h : joinedName tag.toList = []
      · exact Or.inl (normalTagName_of_eq h)
      · rw [normalTagName_of_ne h]
        exact Or.inr fun c hc => of_mem_joinedName hc
  · obtain ⟨rest, hrest⟩ := exists_isBare tag
    refine ⟨rest, hrest, fun other hother => ?_⟩
    rw [← String.toList_inj, ← hother.tagName_eq, hrest.tagName_eq]
  · intro tag tag' rest rest' h h' hrest hrest'
    rw [ofTag_inj, ← hrest.tagName_eq, ← hrest'.tagName_eq]
    exact joinedName_eq_iff (fun c hc => h c (mem_of_mem_tagName hc))
      fun c hc => h' c (mem_of_mem_tagName hc)

/-- The marker in capitals is none, and the second of two markers is part of the name: both tags
    have the label of `tag-x`. -/
theorem ofTag_named_marked :
    ofTag "TAG:x" = ofTag "tag:tag-x" ∧ ofTag "tag:tag-x" ≠ ofTag "tag:x" ∧
      IsLabelName (ofTag "TAG:x") := by
  have hcapital : IsBare "TAG:x" "TAG:x" := .unmarked (by decide +kernel)
  have htwice : IsBare "tag:tag-x" "tag-x" := .marked "tag-x"
  have honce : IsBare "tag:x" "x" := .marked "x"
  have hascii : ∀ tag ∈ ["TAG:x", "tag:tag-x", "tag:x"], ∀ c ∈ tag.toList, c.toNat < 128 := by
    simp
  have hletter : ∀ {c d : Char}, c.toLower = d.toLower → Matches c d := Or.inl
  have hmatches : List.Forall₂ Matches "TAG:x".toList "tag-x".toList :=
    .cons (hletter rfl) <| .cons (hletter rfl) <| .cons (hletter rfl) <|
      .cons (Or.inr (by decide)) <| .cons (hletter rfl) .nil
  obtain ⟨-, -, hshared, hlabel⟩ := ofTag_named
  refine ⟨?_, fun h => ?_, hlabel "TAG:x" (by simp [separators])⟩
  · exact (hshared _ _ _ _ (hascii _ (by simp)) (hascii _ (by simp)) hcapital htwice).2 hmatches
  · have hlength := (hshared _ _ _ _ (hascii _ (by simp)) (hascii _ (by simp)) htwice honce).1 h
    exact absurd hlength.length_eq (by decide)

end Label

end TailnetTargets
