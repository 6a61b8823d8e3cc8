/-
  Printed values are read again.

  * `Json.IsSound`: a value without flaws, whose texts are made of characters, and whose numbers are
    spelled as numbers are;
  * `readText_quote`: a text between quotes;
  * `readValue_chars`: a printed value, whatever follows it;
  * `Decoder.ofBytes_render`: what a decoder makes of a printed document is what it makes of the
    value.
-/
import TailnetTargets.Json.Printer
import TailnetTargets.Proofs.Json.Members
import TailnetTargets.Proofs.Json.Number

namespace TailnetTargets

namespace Json

open Text

/-- A value without flaws. -/
inductive IsSound : Json → Prop where
  | null : IsSound null
  | bool (b : Bool) : IsSound (bool b)
  | number {spelling : List Char} (h : Numeral.IsSpelling spelling) : IsSound (number spelling)
  | string (s : String) : IsSound (string s)
  | list {items : List Json} (h : ∀ item ∈ items, IsSound item) : IsSound (list items)
  | record {members : List (String × Json)} (h : ∀ m ∈ members, IsSound m.2) :
      IsSound (record members)

/-! ## Texts -/

theorem number?_digitChar : ∀ n < 16, number? 16 ['0', '0', '0', Nat.digitChar n] = some n := by
  decide

theorem number?_digitChar' :
    ∀ n < 16, number? 16 ['0', '0', '1', Nat.digitChar n] = some (16 + n) := by
  decide

/-- A control is read again which is written with hexadecimal digits. -/
theorem readTextAfter_unit {c : Char} (hc : c.toNat < 0x20) {x y : Char}
    (h : number? 16 ['0', '0', x, y] = some c.toNat) (cs : List Symbol) :
    readTextAfter 0 (.char '\\' :: .char 'u' :: .char '0' :: .char '0' :: .char x :: .char y :: cs)
      = (readTextAfter 0 cs).push c := by
  have hunit : hexUnit? (.char '0' :: .char '0' :: .char x :: .char y :: cs) = .ok c.toNat := by
    simp [hexUnit?, h]
  have hescape : escape (.char 'u' :: .char '0' :: .char '0' :: .char x :: .char y :: cs)
      = .char c 5 := by
    have h₁ : ¬ (0xd800 ≤ c.toNat ∧ c.toNat ≤ 0xdbff) := by omega
    have h₂ : ¬ (0xdc00 ≤ c.toNat ∧ c.toNat ≤ 0xdfff) := by omega
    simp only [escape, hunit, if_neg h₁, if_neg h₂, Char.ofNat_toNat]
  simp [readTextAfter, hescape]

theorem readTextAfter_escapeChar (c : Char) (cs : List Symbol) :
    readTextAfter 0 ((escapeChar c).map .char ++ cs) = (readTextAfter 0 cs).push c := by
  unfold escapeChar
  split
  · next h => subst h; rfl
  split
  · next h => subst h; rfl
  split
  · next h => subst h; rfl
  split
  · next h => subst h; rfl
  split
  · next h => subst h; rfl
  split
  · next h => subst h; rfl
  split
  · next h => subst h; rfl
  split
  · next h =>
    exact readTextAfter_unit (by omega) (number?_digitChar _ h) cs
  split
  · next hge h =>
    have hn := number?_digitChar' (c.toNat - 0x10) (by omega)
    exact readTextAfter_unit h (by rw [hn]; congr 1; omega) cs
  · next hquote hslash _ _ _ _ _ _ h =>
    simp [readTextAfter, hquote, hslash, h]

theorem readTextAfter_chars (cs : List Char) (rest : List Symbol) :
    readTextAfter 0 ((cs.flatMap escapeChar).map .char ++ .char '"' :: rest) =
      .read (some cs) rest := by
  induction cs with
  | nil => rfl
  | cons c cs ih =>
    rw [List.flatMap_cons, List.map_append, List.append_assoc, readTextAfter_escapeChar, ih]
    rfl

theorem readText_quote (s : String) (rest : List Symbol) :
    ∃ cs, (quote s).map Symbol.char ++ rest = .char '"' :: cs ∧
      readText cs = .read (some s.toList) rest := by
  refine ⟨(s.toList.flatMap escapeChar).map Symbol.char ++ .char '"' :: rest, ?_,
    readTextAfter_chars s.toList rest⟩
  simp [quote]

/-! ## Values -/

theorem skipBlanks_cons {c : Char} (h : isBlank (.char c) = false) (cs : List Symbol) :
    skipBlanks (.char c :: cs) = .char c :: cs := by
  simp [skipBlanks, h]

/-- What a number starts with is no blank. -/
theorem isBlank_of_number {c : Char} (h : c = '-' ∨ c.isDigit = true) :
    isBlank (.char c) = false := by
  rcases h with rfl | h
  · decide
  · cases hblank : isBlank (.char c) with
    | false => rfl
    | true =>
      simp only [isBlank, Bool.or_eq_true, decide_eq_true_eq] at hblank
      rcases hblank with ((rfl | rfl) | rfl) | rfl <;> cases h

theorem readValue_number (fuel : Nat) {c : Char} (h : c = '-' ∨ c.isDigit = true)
    (cs : List Symbol) : readValue (fuel + 1) (.char c :: cs) = readNumber (.char c :: cs) := by
  rw [readValue]
  simp only [skipBlanks_cons (isBlank_of_number h)]
  split
  case h_7 heq =>
    cases heq
    exact if_pos h
  case h_8 hother => exact absurd rfl (hother _ _)
  all_goals
    next heq =>
      cases heq
      exact absurd h (by decide)

/-- What a printed value starts with is neither a blank nor a closing bracket. -/
theorem IsSound.chars_eq_cons {v : Json} (h : v.IsSound) :
    ∃ c cs, chars v = c :: cs ∧ isBlank (.char c) = false ∧ c ≠ ']' := by
  cases h with
  | null => exact ⟨_, _, rfl, by decide, by decide⟩
  | bool b => cases b <;> exact ⟨_, _, rfl, by decide, by decide⟩
  | number h =>
    obtain ⟨c, cs, hcs, hc⟩ := h.eq_cons
    exact ⟨c, cs, hcs, isBlank_of_number hc, by rintro rfl; simp at hc⟩
  | string s => exact ⟨_, _, rfl, by decide, by decide⟩
  | list h => exact ⟨_, _, rfl, by decide, by decide⟩
  | record h => exact ⟨_, _, rfl, by decide, by decide⟩

/-- A printed value is read again, whatever follows that could not belong to a number. -/
def Reads (v : Json) : Prop :=
  ∀ fuel rest, (chars v).length ≤ fuel → Numeral.Avoids Numeral.isInside rest →
    readValue fuel ((chars v).map .char ++ rest) = (v, some rest)

theorem Reads.before {v : Json} (h : v.Reads) (c : Char) (hc : Numeral.isInside c = false)
    {fuel : Nat} (hfuel : (chars v).length ≤ fuel) (rest : List Symbol) :
    readValue fuel ((chars v).map .char ++ .char c :: rest) = (v, some (.char c :: rest)) :=
  h fuel _ hfuel (Numeral.avoids_cons hc rest)

/-- The items of an array, each of which takes one step of the fuel besides its own. -/
theorem readItems_chars {items : List Json} (hne : items ≠ []) (h : ∀ v ∈ items, v.Reads) :
    ∀ fuel rest, (itemChars items).length + 1 ≤ fuel →
      readItems fuel ((itemChars items).map .char ++ .char ']' :: rest)
        = (items, none, some rest) := by
  induction items with
  | nil => exact absurd rfl hne
  | cons v items ih =>
    rintro (_ | fuel) rest hfuel
    · omega
    have hv := h v (by simp)
    cases items with
    | nil =>
      simp only [itemChars] at hfuel ⊢
      simp only [readItems, hv.before ']' rfl (show _ ≤ fuel by omega)]
      rw [skipBlanks_cons (by decide)]
      rfl
    | cons v' items =>
      simp only [itemChars, List.length_append, List.length_cons] at hfuel
      have hrest := ih (by simp) (fun u hu => h u (by simp [hu])) fuel rest (by omega)
      have hsplit : (itemChars (v :: v' :: items)).map Symbol.char ++ .char ']' :: rest =
          (chars v).map .char ++
            (.char ',' :: ((itemChars (v' :: items)).map .char ++ .char ']' :: rest)) := by
        simp [itemChars]
      rw [hsplit]
      simp only [readItems, hv.before ',' rfl (show _ ≤ fuel by omega)]
      rw [skipBlanks_cons (by decide)]
      simp only [hrest]

/-- The first member of an object, up to its value. -/
theorem readMembers_quote (fuel : Nat) (key : String) (cs : List Symbol) :
    readMembers (fuel + 1) ((quote key).map .char ++ .char ':' :: cs) =
      match readValue fuel cs with
      | (value, none) => ([(some key, value)], none, none)
      | (value, some rest) =>
        match skipBlanks rest with
        | .char '\x7d' :: rest => ([(some key, value)], none, some rest)
        | .char ',' :: rest =>
          let (members, ending, rest) := readMembers fuel rest
          ((some key, value) :: members, ending, rest)
        | rest => ([(some key, value)], some (faultAt rest).flaw, none) := by
  obtain ⟨k, rfl⟩ : ∃ k, String.ofList k = key := ⟨key.toList, String.ofList_toList⟩
  obtain ⟨cs', hcs, hread⟩ := readText_quote (String.ofList k) (.char ':' :: cs)
  rw [String.toList_ofList] at hread
  rw [hcs]
  simp only [readMembers]
  rw [skipBlanks_cons (by decide)]
  simp only [hread]
  rw [skipBlanks_cons (by decide)]
  rfl

theorem readMembers_chars {members : List (String × Json)} (hne : members ≠ [])
    (h : ∀ m ∈ members, m.2.Reads) :
    ∀ fuel rest, (memberChars (members.map fun m => (some m.1, m.2))).length + 1 ≤ fuel →
      readMembers fuel
          ((memberChars (members.map fun m => (some m.1, m.2))).map .char ++ .char '\x7d' :: rest)
        = (members.map fun m => (some m.1, m.2), none, some rest) := by
  induction members with
  | nil => exact absurd rfl hne
  | cons m members ih =>
    obtain ⟨key, v⟩ := m
    rintro (_ | fuel) rest hfuel
    · omega
    have hv : v.Reads := h (key, v) (by simp)
    cases members with
    | nil =>
      simp only [List.map_cons, List.map_nil, memberChars, Option.getD_some, List.length_append,
        List.length_cons] at hfuel
      have hsplit : (memberChars [(some key, v)]).map Symbol.char ++ .char '\x7d' :: rest =
          (quote key).map .char ++ .char ':' :: ((chars v).map .char ++ .char '\x7d' :: rest) := by
        simp [memberChars]
      rw [List.map_cons, List.map_nil, hsplit, readMembers_quote]
      simp only [hv.before '\x7d' rfl (show _ ≤ fuel by omega)]
      rw [skipBlanks_cons (by decide)]
      rfl
    | cons m' members =>
      simp only [List.map_cons, memberChars, Option.getD_some, List.length_append,
        List.length_cons] at hfuel
      have hrest := ih (by simp) (fun u hu => h u (by simp [hu])) fuel rest (by
        simp only [List.map_cons]
        omega)
      have hsplit : (memberChars (((key, v) :: m' :: members).map fun m => (some m.1, m.2))).map
            Symbol.char ++ .char '\x7d' :: rest =
          (quote key).map .char ++ .char ':' :: ((chars v).map .char ++ .char ',' ::
            ((memberChars ((m' :: members).map fun m => (some m.1, m.2))).map .char ++
              .char '\x7d' :: rest)) := by
        simp [memberChars]
      rw [hsplit, readMembers_quote]
      simp only [hv.before ',' rfl (show _ ≤ fuel by omega)]
      rw [skipBlanks_cons (by decide)]
      simp only [hrest]
      rfl

theorem readWord_chars (v : Json) (word : List Char) (rest : List Symbol) :
    readWord v word (word.map .char ++ rest) = (v, some rest) := by
  induction word with
  | nil => simp [readWord]
  | cons c word ih => simpa [readWord] using ih

theorem readValue_items {fuel : Nat} {c : Char} {cs rest : List Symbol} {items : List Json}
    (hblank : isBlank (.char c) = false) (hne : c ≠ ']')
    (h : readItems fuel (.char c :: cs) = (items, none, some rest)) :
    readValue (fuel + 1) (.char '[' :: .char c :: cs) = (list items, some rest) := by
  rw [readValue]
  simp only [skipBlanks_cons hblank, skipBlanks_cons (c := '[') (by decide)]
  split
  · next heq => simp_all
  · next heq => cases heq
  · rw [h]
    rfl

theorem readValue_members {fuel : Nat} {cs rest : List Symbol} {members : List (String × Json)}
    (h : readMembers fuel (.char '"' :: cs) =
      (members.map fun m => (some m.1, m.2), none, some rest)) :
    readValue (fuel + 1) (.char '\x7b' :: .char '"' :: cs) = (record members, some rest) := by
  rw [readValue]
  simp only [skipBlanks_cons (c := '"') (by decide), skipBlanks_cons (c := '\x7b') (by decide)]
  split
  · next heq => simp at heq
  · rw [h]
    rfl

theorem itemChars_eq_cons {v : Json} (h : v.IsSound) (items : List Json) :
    ∃ c cs, itemChars (v :: items) = c :: cs ∧ isBlank (.char c) = false ∧ c ≠ ']' := by
  obtain ⟨c, cs, hc, hblank, hne⟩ := h.chars_eq_cons
  cases items with
  | nil => exact ⟨c, cs, hc, hblank, hne⟩
  | cons v' items => exact ⟨c, cs ++ ',' :: itemChars (v' :: items), by simp [itemChars, hc],
      hblank, hne⟩

theorem memberChars_eq_cons (key : String) (v : Json) (members : List (Option String × Json)) :
    ∃ cs, memberChars ((some key, v) :: members) = '"' :: cs := by
  cases members <;> exact ⟨_, rfl⟩

/-- **A printed value is read again, whatever follows it** that could not belong to a number. -/
theorem readValue_chars {v : Json} (h : v.IsSound) : v.Reads := by
  induction h with
  | null =>
    rintro (_ | fuel) rest hfuel -
    · cases hfuel
    exact readWord_chars null "ull".toList rest
  | bool b =>
    rintro (_ | fuel) rest hfuel -
    · cases b <;> cases hfuel
    cases b
    · exact readWord_chars (bool false) "alse".toList rest
    · exact readWord_chars (bool true) "rue".toList rest
  | @number spelling h =>
    obtain ⟨c, cs, rfl, hc⟩ := h.eq_cons
    rintro (_ | fuel) rest hfuel hrest
    · simp [chars] at hfuel
    have htake := Numeral.take?_spelling h hrest
    rw [List.map_cons, List.cons_append] at htake
    rw [chars, List.map_cons, List.cons_append, readValue_number fuel hc, readNumber, htake]
  | string s =>
    rintro (_ | fuel) rest hfuel -
    · simp [string, chars, quote] at hfuel
    obtain ⟨cs, hcs, hread⟩ := readText_quote s rest
    simp only [string, chars, Option.getD_some, hcs, readValue]
    rw [skipBlanks_cons (by decide)]
    simp [hread]
  | @list items hitems ih =>
    rintro (_ | fuel) rest hfuel -
    · simp [list, chars] at hfuel
    have hsplit : (chars (list items)).map Symbol.char ++ rest =
        .char '[' :: ((itemChars items).map .char ++ .char ']' :: rest) := by
      simp [list, chars, closing]
    rw [hsplit]
    cases items with
    | nil => rfl
    | cons v items =>
      simp only [list, chars, closing, List.length_cons, List.length_append,
        List.length_nil] at hfuel
      have hread := readItems_chars (by simp) ih fuel rest (by omega)
      obtain ⟨c, cs, hc, hblank, hne⟩ := itemChars_eq_cons (hitems v (by simp)) items
      rw [hc] at hread ⊢
      exact readValue_items hblank hne hread
  | @record members hmembers ih =>
    rintro (_ | fuel) rest hfuel -
    · simp [record, chars] at hfuel
    have hsplit : (chars (record members)).map Symbol.char ++ rest =
        .char '\x7b' :: ((memberChars (members.map fun m => (some m.1, m.2))).map .char ++
          .char '\x7d' :: rest) := by
      simp [record, chars, closing]
    rw [hsplit]
    cases members with
    | nil => rfl
    | cons m members =>
      simp only [record, chars, closing, List.length_cons, List.length_append,
        List.length_nil] at hfuel
      have hread := readMembers_chars (by simp) ih fuel rest (by omega)
      obtain ⟨cs, hc⟩ := memberChars_eq_cons m.1 m.2 (members.map fun m => (some m.1, m.2))
      rw [List.map_cons, hc] at hread ⊢
      exact readValue_members hread

/-! ## Documents -/

theorem ofSymbols_chars {v : Json} (h : v.IsSound) :
    Document.ofSymbols ((chars v).map .char) = ⟨v, false⟩ := by
  have hread := readValue_chars h (2 * ((chars v).map Symbol.char).length + 2) [] (by
    rw [List.length_map]
    omega) (by rintro _ _ ⟨⟩)
  rw [List.append_nil] at hread
  simp only [Document.ofSymbols, hread]
  rfl

theorem ofBytes_render {v : Json} (h : v.IsSound) :
    Document.ofBytes (utf8 v.render.toList) = ⟨v, false⟩ := by
  rw [Document.ofBytes, symbols_utf8, render, String.toList_ofList]
  exact ofSymbols_chars h

end Json

/-- **What a decoder makes of a printed value is what it makes of the value.** -/
theorem Decoder.ofBytes_render {α : Type} (decoder : Decoder α) {v : Json} (h : v.IsSound) :
    decoder.ofBytes (Text.utf8 v.render.toList) = decoder v :=
  decoder.ofBytes_eq (Json.ofBytes_render h)

end TailnetTargets
