/-
  Numbers and the texts which write them.

  * `IsHexDigit`: a hexadecimal digit and its value, in either case (`hexValue?_eq_some`);
  * `number?_hex`: a list of hexadecimal digits writes its value in base sixteen, whether or not
    it starts with zeros;
  * `eq_toDigits_of_number?`: without a leading zero a number is written in one way in base ten.
-/
import Mathlib.Data.Nat.Digits.Lemmas
import TailnetTargets.Text.Digit

namespace TailnetTargets.Text

/-- A hexadecimal digit and its value. -/
def IsHexDigit (c : Char) (d : Nat) : Prop :=
  d < 16 ∧ (c = Nat.digitChar d ∨ c = (Nat.digitChar d).toUpper)

instance (c : Char) (d : Nat) : Decidable (IsHexDigit c d) :=
  inferInstanceAs (Decidable (_ ∧ _))

theorem toNat_lt_of_hexValue? {c : Char} {d : Nat} (h : hexValue? c = some d) :
    c.toNat < 128 := by
  have hle : ∀ {a : Char}, c ≤ a → c.toNat ≤ a.toNat := fun hca => hca
  have h9 : '9'.toNat < 128 := by decide
  have hf : 'f'.toNat < 128 := by decide
  have hF : 'F'.toNat < 128 := by decide
  unfold hexValue? at h
  split at h
  · next hc => exact (hle hc.2).trans_lt h9
  · split at h
    · next hc => exact (hle hc.2).trans_lt hf
    · split at h
      · next hc => exact (hle hc.2).trans_lt hF
      · cases h

theorem hexValue?_eq_some {c : Char} {d : Nat} : hexValue? c = some d ↔ IsHexDigit c d := by
  constructor
  · intro h
    have hascii : ∀ n < 128, ∀ d ∈ hexValue? (Char.ofNat n), IsHexDigit (Char.ofNat n) d := by
      decide +kernel
    have hc := hascii c.toNat (toNat_lt_of_hexValue? h) d
    rw [Char.ofNat_toNat] at hc
    exact hc h
  · have hdigit : ∀ d < 16, hexValue? (Nat.digitChar d) = some d ∧
        hexValue? (Nat.digitChar d).toUpper = some d := by decide +kernel
    rintro ⟨hd, rfl | rfl⟩
    · exact (hdigit d hd).1
    · exact (hdigit d hd).2

section
variable {cs : List Char} {ds : List Nat}

theorem lt_of_isHexDigit (h : List.Forall₂ IsHexDigit cs ds) : ∀ d ∈ ds, d < 16 := by
  induction h with
  | nil => simp
  | cons hd _ ih => exact List.forall_mem_cons.2 ⟨hd.1, ih⟩

/-- Only digits occur among digits. -/
theorem notMem_of_isHexDigit (h : List.Forall₂ IsHexDigit cs ds) {c : Char}
    (hc : ∀ d < 16, c ≠ Nat.digitChar d ∧ c ≠ (Nat.digitChar d).toUpper) : c ∉ cs := by
  induction h with
  | nil => simp
  | cons hd _ ih =>
    obtain ⟨hlt, hcase⟩ := hd
    obtain ⟨hlower, hupper⟩ := hc _ hlt
    rintro (_ | ⟨_, hmem⟩)
    · exact hcase.elim hlower hupper
    · exact ih hmem

end

theorem digitValue?_hex {c : Char} {d : Nat} : digitValue? 16 c = some d ↔ IsHexDigit c d := by
  rw [digitValue?, Option.filter_eq_some_iff, hexValue?_eq_some, and_iff_left_of_imp]
  exact fun h => decide_eq_true h.1

/-- A decimal digit is written in one way. -/
theorem digitValue?_decimal {c : Char} {d : Nat} (h : digitValue? 10 c = some d) :
    d < 10 ∧ c = Nat.digitChar d := by
  obtain ⟨hhex, hlt⟩ := Option.filter_eq_some_iff.1 h
  have hd : d < 10 := of_decide_eq_true hlt
  have hupper : ∀ d < 10, (Nat.digitChar d).toUpper = Nat.digitChar d := by decide
  refine ⟨hd, ?_⟩
  rcases (hexValue?_eq_some.1 hhex).2 with rfl | rfl
  · rfl
  · exact hupper d hd

/-- A number goes on with the value of the digits behind it. -/
theorem numberAfter?_eq_some {base value n : Nat} {cs : List Char} :
    numberAfter? base value cs = some n ↔
      ∃ ds, List.Forall₂ (fun c d => digitValue? base c = some d) cs ds ∧
        n = value * base ^ ds.length + Nat.ofDigits base ds.reverse := by
  induction cs generalizing value with
  | nil => simp [numberAfter?, eq_comm]
  | cons c cs ih =>
    rw [numberAfter?]
    have hvalue : ∀ (d : Nat) (ds : List Nat),
        (value * base + d) * base ^ ds.length + Nat.ofDigits base ds.reverse =
          value * base ^ (d :: ds).length + Nat.ofDigits base (d :: ds).reverse := by
      intro d ds
      rw [List.reverse_cons, Nat.ofDigits_append, Nat.ofDigits_singleton, List.length_reverse,
        List.length_cons]
      ring
    cases hd : digitValue? base c with
    | none => simp [List.forall₂_cons_left_iff, hd]
    | some d =>
      simp only [ih, hvalue]
      constructor
      · rintro ⟨ds, hds, rfl⟩
        exact ⟨d :: ds, .cons hd hds, rfl⟩
      · rintro ⟨_, hds, rfl⟩
        obtain ⟨d', ds, hd', htail, rfl⟩ := List.forall₂_cons_left_iff.1 hds
        obtain rfl := Option.some.inj (hd.symm.trans hd')
        exact ⟨ds, htail, rfl⟩

/-- Hexadecimal digits write their value. -/
theorem number?_hex {cs : List Char} {n : Nat} :
    number? 16 cs = some n ↔
      cs ≠ [] ∧ ∃ ds, List.Forall₂ IsHexDigit cs ds ∧ n = Nat.ofDigits 16 ds.reverse := by
  cases cs with
  | nil => simp [number?]
  | cons c cs =>
    rw [number?, if_neg (by simp), numberAfter?_eq_some]
    simp [digitValue?_hex]

/-- Decimal digits behind a positive number are the last digits of the longer number. -/
theorem toDigits_of_numberAfter? {value n : Nat} {cs : List Char} (hpos : 0 < value)
    (h : numberAfter? 10 value cs = some n) : Nat.toDigits 10 n = Nat.toDigits 10 value ++ cs := by
  induction cs generalizing value with
  | nil =>
    obtain rfl := Option.some.inj h
    simp
  | cons c cs ih =>
    rw [numberAfter?] at h
    split at h
    · next d hd =>
      obtain ⟨hlt, rfl⟩ := digitValue?_decimal hd
      have hstep : Nat.toDigits 10 (value * 10 + d) = Nat.toDigits 10 value ++ [Nat.digitChar d] := by
        rw [← Nat.toDigits_of_lt_base hlt, Nat.toDigits_append_toDigits (by decide) hpos hlt,
          Nat.mul_comm]
      rw [ih (by omega) h, hstep, List.append_assoc, List.singleton_append]
    · cases h

/-- Without a leading zero a number is written in one way. -/
theorem eq_toDigits_of_number? {cs : List Char} {n : Nat} (h : number? 10 cs = some n)
    (hzero : cs.length = 1 ∨ cs.head? ≠ some '0') : cs = Nat.toDigits 10 n := by
  cases cs with
  | nil => cases h
  | cons c cs =>
    rw [number?, if_neg (by simp), numberAfter?] at h
    split at h
    · next d hd =>
      obtain ⟨hlt, rfl⟩ := digitValue?_decimal hd
      rw [Nat.zero_mul, Nat.zero_add] at h
      rcases Nat.eq_zero_or_pos d with rfl | hpos
      · -- a zero stands alone
        obtain rfl : cs = [] := by simpa using hzero
        obtain rfl := Option.some.inj h
        rfl
      · rw [toDigits_of_numberAfter? hpos h, Nat.toDigits_of_lt_base hlt, List.singleton_append]
    · cases h

end TailnetTargets.Text
