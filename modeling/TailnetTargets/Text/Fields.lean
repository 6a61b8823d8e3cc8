/-
  Texts cut into fields at a separating character, and joined again.

  * `fields sep cs` are the pieces of `cs` between the occurrences of `sep`: always at least one;
  * `joinWith sep fs` puts the pieces together again.

  `joinWith_fields`: joining the fields of a text gives the text.  `fields_joinWith`: what is joined
  is found again, if the separator occurs in none of it.
-/

namespace TailnetTargets.Text

/-- The pieces of a text between the occurrences of `sep`. -/
def fields (sep : Char) : List Char → List (List Char)
  | [] => [[]]
  | c :: cs =>
    if c = sep then [] :: fields sep cs
    else
      match fields sep cs with
      | [] => [[c]]
      | f :: fs => (c :: f) :: fs

/-- The pieces with `sep` between them. -/
def joinWith (sep : Char) : List (List Char) → List Char
  | [] => []
  | [f] => f
  | f :: g :: fs => f ++ sep :: joinWith sep (g :: fs)

/-- A text has at least one field. -/
theorem fields_ne_nil (sep : Char) (cs : List Char) : fields sep cs ≠ [] := by
  induction cs with
  | nil => simp [fields]
  | cons c cs ih =>
    simp only [fields]
    split
    · simp
    · split <;> simp

/-- Joining the fields of a text gives the text. -/
theorem joinWith_fields (sep : Char) (cs : List Char) : joinWith sep (fields sep cs) = cs := by
  induction cs with
  | nil => rfl
  | cons c cs ih =>
    simp only [fields]
    split
    · next h =>
      subst h
      cases hf : fields c cs with
      | nil => exact absurd hf (fields_ne_nil c cs)
      | cons f fs => rw [hf] at ih; simp [joinWith, ih]
    · cases hf : fields sep cs with
      | nil => exact absurd hf (fields_ne_nil sep cs)
      | cons f fs =>
        rw [hf] at ih
        cases fs with
        | nil => simpa [joinWith] using ih
        | cons g gs => simpa [joinWith] using ih

section
variable {sep : Char}

/-- A text without the separator is one field. -/
theorem fields_eq_singleton {f : List Char} (h : sep ∉ f) : fields sep f = [f] := by
  induction f with
  | nil => rfl
  | cons c f ih =>
    obtain ⟨hc, hf⟩ : sep ≠ c ∧ sep ∉ f := by simpa using h
    rw [fields, if_neg (Ne.symm hc), ih hf]

/-- The first field ends at the first separator. -/
theorem fields_append {f : List Char} (h : sep ∉ f) (rest : List Char) :
    fields sep (f ++ sep :: rest) = f :: fields sep rest := by
  induction f with
  | nil => simp [fields]
  | cons c f ih =>
    obtain ⟨hc, hf⟩ : sep ≠ c ∧ sep ∉ f := by simpa using h
    rw [List.cons_append, fields, if_neg (Ne.symm hc), ih hf]

/-- Fields without the separator are found again when they are joined. -/
theorem fields_joinWith {fs : List (List Char)} (hne : fs ≠ []) (h : ∀ f ∈ fs, sep ∉ f) :
    fields sep (joinWith sep fs) = fs := by
  induction fs with
  | nil => exact absurd rfl hne
  | cons f fs ih =>
    have hf : sep ∉ f := h f (by simp)
    cases fs with
    | nil => exact fields_eq_singleton hf
    | cons g gs =>
      rw [joinWith, fields_append hf, ih (by simp) fun x hx => h x (by simp [hx])]

end

end TailnetTargets.Text
