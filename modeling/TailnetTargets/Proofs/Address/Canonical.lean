/-
  The text of an address is a spelling of it.

  * `IPv6.isGroup_toDigits`: a group is written in hexadecimal without needless zeros;
  * `IPv6.eq_append_longestZeros`: what is left out of a text is a run of zero groups;
  * `IPv6.isSpelling_chars`: the text of an IPv6 address, with or without a gap or a dotted quad, is
    a spelling of it;
  * `Address.ofText?_text`: **the text of an address is read as that address**.
-/
import TailnetTargets.Proofs.Target.OverIPv4

namespace TailnetTargets

open Text

namespace Text

/-- A number is written with hexadecimal digits which are worth it. -/
theorem exists_isHexDigit_toDigits (n : Nat) :
    ∃ ds, List.Forall₂ IsHexDigit (Nat.toDigits 16 n) ds ∧ n = Nat.ofDigits 16 ds.reverse := by
  induction n using Nat.strongRecOn with
  | ind n ih =>
    by_cases hlt : n < 16
    · refine ⟨[n], ?_, by simp⟩
      rw [Nat.toDigits_of_lt_base hlt]
      exact .cons ⟨hlt, Or.inl rfl⟩ .nil
    · obtain ⟨ds, hds, hn⟩ := ih (n / 16) (by omega)
      have hmod : n % 16 < 16 := Nat.mod_lt n (by decide)
      have hdigits : Nat.toDigits 16 n = Nat.toDigits 16 (n / 16) ++ [Nat.digitChar (n % 16)] := by
        rw [← Nat.toDigits_of_lt_base hmod,
          Nat.toDigits_append_toDigits (by decide) (by omega) hmod, Nat.div_add_mod]
      refine ⟨ds ++ [n % 16], ?_, ?_⟩
      · rw [hdigits]
        exact List.rel_append hds (.cons ⟨hmod, Or.inl rfl⟩ .nil)
      · rw [List.reverse_append, List.reverse_singleton, List.singleton_append, Nat.ofDigits_cons,
          ← hn]
        exact (Nat.mod_add_div n 16).symm

end Text

namespace IPv6

theorem isGroup_toDigits (g : UInt16) : IsGroup g (Nat.toDigits 16 g.toNat) where
  ne_nil := Nat.toDigits_ne_nil
  length := (Nat.length_toDigits_le_iff (by decide) (by decide)).2 g.toNat_lt
  digits := exists_isHexDigit_toDigits g.toNat

theorem areFields_groups (quad : Bool) (gs : List UInt16) :
    AreFields quad gs (gs.map fun g => Nat.toDigits 16 g.toNat) := by
  induction gs with
  | nil => exact .nil
  | cons g gs ih => exact .cons (isGroup_toDigits g) ih

/-! ## The gap -/

/-- Groups start with as many zeros as are counted. -/
theorem eq_append_of_le_leadingZeros {gs : List UInt16} {n : Nat} (h : n ≤ leadingZeros gs) :
    gs = List.replicate n 0 ++ gs.drop n := by
  induction gs generalizing n with
  | nil =>
    obtain rfl : n = 0 := by simpa [leadingZeros] using h
    rfl
  | cons g gs ih =>
    cases n with
    | zero => rfl
    | succ n =>
      by_cases hg : g = 0
      · subst hg
        have hn : n ≤ leadingZeros gs := by simpa [leadingZeros] using h
        rw [List.replicate_succ, List.cons_append, List.drop_succ_cons, ← ih hn]
      · simp [leadingZeros, hg] at h

/-- At the start of the longest run there are as many zeros as it is long. -/
theorem longestZeros_le (gs : List UInt16) :
    (longestZeros gs).2 ≤ leadingZeros (gs.drop (longestZeros gs).1) := by
  -- so it is with every run which was the longest one on the way
  let IsRun (run : Nat × Nat) : Prop := run.2 ≤ leadingZeros (gs.drop run.1)
  refine List.foldlRecOn (motive := IsRun) _ _ (Nat.zero_le _) fun best h i _ => ?_
  dsimp only
  split
  · exact Nat.le_refl _
  · exact h

/-- What is left out of a text is a run of zero groups. -/
theorem eq_append_longestZeros (gs : List UInt16) :
    gs = gs.take (longestZeros gs).1 ++ List.replicate (longestZeros gs).2 0 ++
      gs.drop ((longestZeros gs).1 + (longestZeros gs).2) := by
  have hrun := eq_append_of_le_leadingZeros (longestZeros_le gs)
  rw [List.drop_drop] at hrun
  rw [List.append_assoc, ← hrun, List.take_append_drop]

/-- The text without a dotted quad. -/
theorem isSpelling_hexChars (ip : IPv6) : ip.IsSpelling ip.hexChars := by
  unfold hexChars
  dsimp only
  have hgroups := eq_append_longestZeros ip.groups.toList
  generalize (longestZeros ip.groups.toList).1 = start at hgroups ⊢
  generalize (longestZeros ip.groups.toList).2 = count at hgroups ⊢
  split
  · next hcount =>
    obtain ⟨zeros, rfl⟩ : ∃ zeros, count = zeros + 1 := ⟨count - 1, by omega⟩
    rw [groupChars, groupChars, List.append_assoc]
    exact .gap zeros hgroups (areFields_groups false _) (areFields_groups true _)
  · exact .full (areFields_groups true _)

/-- The text of an IPv6 address is a spelling of it. -/
theorem isSpelling_chars (ip : IPv6) : ip.IsSpelling ip.chars := by
  rw [chars]
  split
  · next ip4 hmapped =>
    have hspelling := ip4.isSpelling_mapped
    rw [String.toList_append, IPv4.toList_text] at hspelling
    rw [mapped?_eq_some.1 hmapped]
    exact hspelling
  · exact ip.isSpelling_hexChars

end IPv6

namespace Address

theorem isSpelling_text (a : Address) : a.IsSpelling a.text.toList := by
  cases a with
  | v4 ip => exact IPv4.toList_text ip
  | v6 ip =>
    rw [text, IPv6.text, String.toList_ofList]
    exact ip.isSpelling_chars

/-- **The text of an address is read as that address.** -/
theorem ofText?_text (a : Address) : ofText? a.text = some a :=
  ofText?_eq_some.2 a.isSpelling_text

end Address

end TailnetTargets
