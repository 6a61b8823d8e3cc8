/-
  Numbers are read as they are spelled.

  * `Numeral.IsSpelling`: how numbers are spelled: perhaps a minus, digits without needless zeros,
    perhaps a fraction, and perhaps an exponent;
  * `Numeral.Avoids`: a text does not start with certain characters;
  * `Numeral.take?_spelling`: a spelling at the head of a text, where nothing follows that could
    belong to it.
-/
import TailnetTargets.Json.Number

namespace TailnetTargets.Numeral

open Text

/-- Digits, of which there is at least one. -/
def IsDigits (ds : List Char) : Prop := ds ≠ [] ∧ ∀ c ∈ ds, c.isDigit = true

/-- The digits of an integer, without needless zeros. -/
def IsInteger (ds : List Char) : Prop := IsDigits ds ∧ ∀ c cs, ds ≠ '0' :: c :: cs

/-- A point and digits, or nothing. -/
def IsFraction (cs : List Char) : Prop := cs = [] ∨ ∃ ds, IsDigits ds ∧ cs = '.' :: ds

/-- A letter, perhaps a sign, and digits, or nothing. -/
def IsExponent (cs : List Char) : Prop :=
  cs = [] ∨ ∃ letter sign ds, letter ∈ ['e', 'E'] ∧ sign ∈ [[], ['+'], ['-']] ∧ IsDigits ds ∧
    cs = letter :: (sign ++ ds)

/-- How numbers are spelled. -/
inductive IsSpelling : List Char → Prop
  | parts {sign whole fraction exponent : List Char} (hsign : sign ∈ [[], ['-']])
      (hwhole : IsInteger whole) (hfraction : IsFraction fraction)
      (hexponent : IsExponent exponent) : IsSpelling (sign ++ whole ++ fraction ++ exponent)

/-- A spelling starts with a minus or with a digit. -/
theorem IsSpelling.eq_cons {spelling : List Char} (h : IsSpelling spelling) :
    ∃ c cs, spelling = c :: cs ∧ (c = '-' ∨ c.isDigit = true) := by
  obtain @⟨sign, whole, fraction, exponent, hsign, hwhole, -, -⟩ := h
  obtain ⟨c, cs, rfl⟩ := List.exists_cons_of_ne_nil hwhole.1.1
  obtain rfl | rfl : sign = [] ∨ sign = ['-'] := by simpa using hsign
  · exact ⟨c, _, rfl, Or.inr (hwhole.1.2 c (by simp))⟩
  · exact ⟨'-', _, rfl, Or.inl rfl⟩

/-- A text which does not start with certain characters. -/
def Avoids (p : Char → Bool) (cs : List Symbol) : Prop :=
  ∀ c rest, cs = .char c :: rest → p c = false

/-- The characters which can belong to a number behind its first digit. -/
def isInside (c : Char) : Bool := c.isDigit || ['.', 'e', 'E'].contains c

section
variable {ds : List Char} {rest : List Symbol} {p : Char → Bool}

theorem avoids_cons {c : Char} (h : p c = false) (rest : List Symbol) :
    Avoids p (.char c :: rest) := by
  rintro _ _ ⟨⟩
  exact h

theorem Avoids.mono {q : Char → Bool} (h : Avoids p rest) (hpq : ∀ c, q c = true → p c = true) :
    Avoids q rest := fun c cs hcs => by
  have hc := h c cs hcs
  cases hq : q c with
  | false => rfl
  | true => rw [hpq c hq] at hc; cases hc

theorem digits_append (hds : ∀ c ∈ ds, c.isDigit = true) (hrest : Avoids Char.isDigit rest) :
    digits (ds.map .char ++ rest) = ds := by
  induction ds with
  | nil =>
    rcases rest with _ | ⟨c | _, rest⟩
    · rfl
    · simp [digits, hrest c rest rfl]
    · rfl
  | cons c ds ih =>
    simp [digits, hds c (by simp), ih fun d hd => hds d (by simp [hd])]

theorem takeDigits_append (hds : IsDigits ds) (hrest : Avoids Char.isDigit rest) :
    takeDigits (ds.map .char ++ rest) = .ok (ds, rest) := by
  obtain ⟨c, cs, rfl⟩ := List.exists_cons_of_ne_nil hds.1
  rw [takeDigits, digits_append hds.2 hrest]
  exact congrArg (fun rest => Except.ok (c :: cs, rest)) (List.drop_left' (List.length_map _))

theorem takeWhole_append (hds : IsInteger ds) (hrest : Avoids Char.isDigit rest) :
    takeWhole (ds.map .char ++ rest) = .ok (ds, rest) := by
  rw [takeWhole, takeDigits_append hds.1 hrest]
  split
  · next heq => cases heq; exact absurd rfl (hds.2 _ _)
  · rfl

theorem takeFraction_append (hds : IsFraction ds)
    (hrest : Avoids (fun c => c.isDigit || c = '.') rest) :
    takeFraction (ds.map .char ++ rest) = .ok (ds, rest) := by
  rcases hds with rfl | ⟨ds, hds, rfl⟩
  · rw [List.map_nil, List.nil_append]
    unfold takeFraction
    split
    · simpa using hrest _ _ rfl
    · rfl
  · have hdigits : Avoids Char.isDigit rest := hrest.mono fun c hc => by simp [hc]
    simp [takeFraction, takeDigits_append hds hdigits, bind, Except.bind, pure, Except.pure]

theorem takeSign_nil {signs : List Char} (h : Avoids signs.contains rest) :
    takeSign signs rest = ([], rest) := by
  unfold takeSign
  split
  · next c cs => rw [if_neg (by simpa using h c cs rfl)]
  · rfl

theorem takeSign_append {signs sign : List Char} (hsign : sign = [] ∨ ∃ c ∈ signs, sign = [c])
    (hrest : Avoids signs.contains rest) :
    takeSign signs (sign.map .char ++ rest) = (sign, rest) := by
  rcases hsign with rfl | ⟨c, hc, rfl⟩
  · exact takeSign_nil hrest
  · simp [takeSign, hc]

theorem contains_of_isDigit {cs : List Char} (hcs : ∀ c ∈ cs, c.isDigit = false) {c : Char}
    (hc : c.isDigit = true) : cs.contains c = false := by
  cases hcontains : cs.contains c with
  | false => rfl
  | true => rw [hcs c (by simpa using hcontains)] at hc; cases hc

/-- Digits at the head of a text are none of the characters of which none is a digit. -/
theorem IsDigits.avoids (hds : IsDigits ds) (hp : ∀ c, c.isDigit = true → p c = false)
    (rest : List Symbol) : Avoids p (ds.map .char ++ rest) := by
  obtain ⟨c, cs, rfl⟩ := List.exists_cons_of_ne_nil hds.1
  exact avoids_cons (hp c (hds.2 c (by simp))) _

theorem takeExponent_append (hds : IsExponent ds) (hrest : Avoids isInside rest) :
    takeExponent (ds.map .char ++ rest) = .ok (ds, rest) := by
  have hdigits : Avoids Char.isDigit rest := hrest.mono fun c hc => by simp [isInside, hc]
  rcases hds with rfl | ⟨letter, sign, ds, hletter, hsign, hds, rfl⟩
  · have hletters : Avoids ['e', 'E'].contains rest := hrest.mono fun c hc => by
      simp_all [isInside]
    rw [List.map_nil, List.nil_append, takeExponent, takeSign_nil hletters]
  · have hsigns : takeSign ['+', '-'] (sign.map .char ++ (ds.map .char ++ rest)) =
        (sign, ds.map .char ++ rest) := by
      refine takeSign_append ?_ (hds.avoids (fun c hc => ?_) rest)
      · simpa using hsign
      · exact contains_of_isDigit (by simp) hc
    have hhead : takeSign ['e', 'E'] (.char letter :: (sign.map .char ++ (ds.map .char ++ rest))) =
        ([letter], sign.map .char ++ (ds.map .char ++ rest)) := by
      simp only [takeSign]
      rw [if_pos (by simpa using hletter)]
    simp only [takeExponent, List.map_cons, List.map_append, List.cons_append, List.append_assoc,
      hhead, hsigns, takeDigits_append hds hdigits, bind, Except.bind, pure, Except.pure]
    rfl

theorem IsFraction.avoids (hds : IsFraction ds) (hp : p '.' = false) (hrest : Avoids p rest) :
    Avoids p (ds.map .char ++ rest) := by
  rcases hds with rfl | ⟨ds, -, rfl⟩
  · exact hrest
  · exact avoids_cons hp _

theorem IsExponent.avoids (hds : IsExponent ds) (hp : p 'e' = false ∧ p 'E' = false)
    (hrest : Avoids p rest) : Avoids p (ds.map .char ++ rest) := by
  rcases hds with rfl | ⟨letter, sign, ds, hletter, -, -, rfl⟩
  · exact hrest
  · obtain rfl | rfl : letter = 'e' ∨ letter = 'E' := by simpa using hletter
    · exact avoids_cons hp.1 _
    · exact avoids_cons hp.2 _

/-- **A number is read as it is spelled**, where nothing follows that could belong to it. -/
theorem take?_spelling (h : IsSpelling ds) (hrest : Avoids isInside rest) :
    take? (ds.map .char ++ rest) = .ok (ds, rest) := by
  obtain @⟨sign, whole, fraction, exponent, hsign, hwhole, hfraction, hexponent⟩ := h
  have hdigits : Avoids Char.isDigit rest := hrest.mono fun c hc => by simp [isInside, hc]
  have hpoint : Avoids (fun c => c.isDigit || c = '.') rest := hrest.mono fun c hc => by
    rcases Bool.or_eq_true_iff.1 hc with hc | hc <;> simp_all [isInside]
  have hsigns : takeSign ['-'] (sign.map .char ++ (whole.map .char ++
      (fraction.map .char ++ (exponent.map .char ++ rest)))) = (sign, whole.map .char ++
      (fraction.map .char ++ (exponent.map .char ++ rest))) := by
    refine takeSign_append (by simpa using hsign) (hwhole.1.avoids (fun c hc => ?_) _)
    exact contains_of_isDigit (by simp) hc
  have hwholes := takeWhole_append hwhole
    (hfraction.avoids rfl (hexponent.avoids ⟨rfl, rfl⟩ hdigits))
  have hfractions := takeFraction_append hfraction (hexponent.avoids ⟨rfl, rfl⟩ hpoint)
  simp only [take?, List.map_append, List.append_assoc, hsigns, hwholes, hfractions,
    takeExponent_append hexponent hrest, bind, Except.bind, pure, Except.pure]

end

end TailnetTargets.Numeral
