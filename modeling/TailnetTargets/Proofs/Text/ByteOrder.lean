/-
  The order of texts is the order of their bytes.

  * `utf8EncodeChar_append_lt`: of two characters the lesser one has the lesser bytes, whatever
    follows them;
  * `utf8_lt_iff`: a text is less than another one iff its bytes are less than those of the other.

  A character with more bytes is greater than one with fewer bytes, and its first byte is greater.
-/
import Mathlib.Data.String.Basic
import TailnetTargets.Text.Utf8

namespace TailnetTargets.Text

/-- Bytes in front of others decide, unless they are equal. -/
theorem ofNat_cons_lt {m n : Nat} (hm : m < 256) (hn : n < 256) {x y : List UInt8} :
    UInt8.ofNat m :: x < UInt8.ofNat n :: y ↔ m < n ∨ (m = n ∧ x < y) := by
  rw [List.cons_lt_cons_iff, UInt8.lt_iff_toNat_lt, ← UInt8.toNat_inj,
    UInt8.toNat_ofNat_of_lt' hm, UInt8.toNat_ofNat_of_lt' hn]

theorem val_toNat_lt (c : Char) : c.val.toNat < 0x110000 := by
  rcases c.valid with h | ⟨-, h⟩ <;> omega

/-- Of two characters the lesser one has the lesser bytes. -/
theorem utf8EncodeChar_append_lt {c d : Char} (h : c < d) (x y : List UInt8) :
    String.utf8EncodeChar c ++ x < String.utf8EncodeChar d ++ y := by
  have hlt : c.val.toNat < d.val.toNat := h
  have hmax := val_toNat_lt d
  unfold String.utf8EncodeChar
  dsimp only
  generalize c.val.toNat = m at *
  generalize d.val.toNat = n at *
  -- the bits of a byte, six by six
  have h12 : ∀ k : Nat, k / 4096 = k / 64 / 64 := fun k => (Nat.div_div_eq_div_mul k 64 64).symm
  have h18 : ∀ k : Nat, k / 262144 = k / 64 / 64 / 64 := by
    intro k
    rw [Nat.div_div_eq_div_mul, Nat.div_div_eq_div_mul]
  simp only [h12, h18]
  split_ifs <;> simp (disch := omega) only [List.cons_append, List.nil_append, ofNat_cons_lt] <;>
    omega

theorem utf8_cons (c : Char) (cs : List Char) :
    utf8 (c :: cs) = String.utf8EncodeChar c ++ utf8 cs := List.flatMap_cons

theorem utf8_lt_of_lt {cs ds : List Char} (h : cs < ds) : utf8 cs < utf8 ds := by
  induction h with
  | @nil d ds =>
    have hne : String.utf8EncodeChar d ≠ [] := String.utf8EncodeChar_ne_nil
    obtain ⟨b, bs, hbytes⟩ := List.exists_cons_of_ne_nil hne
    rw [utf8_cons, hbytes]
    exact List.nil_lt_cons _ _
  | rel h =>
    rw [utf8_cons, utf8_cons]
    exact utf8EncodeChar_append_lt h _ _
  | cons _ ih =>
    rw [utf8_cons, utf8_cons]
    exact List.append_left_lt ih

/-- **The order of texts is the order of their bytes.** -/
theorem utf8_lt_iff {s t : String} : utf8 s.toList < utf8 t.toList ↔ s < t := by
  refine ⟨fun h => ?_, fun h => utf8_lt_of_lt (String.lt_iff_toList_lt.1 h)⟩
  rcases lt_trichotomy s t with hlt | rfl | hgt
  · exact hlt
  · exact absurd h (List.lt_irrefl _)
  · have hgt' := utf8_lt_of_lt (String.lt_iff_toList_lt.1 hgt)
    exact absurd (List.lt_trans h hgt') (List.lt_irrefl _)

end TailnetTargets.Text
