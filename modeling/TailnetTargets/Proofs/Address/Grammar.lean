/-
  Which texts are addresses, and of which address each of them is a spelling.

  * `IPv4.ofChars?_eq_some`: an IPv4 address has one spelling, its dotted quad;
  * `IPv6.IsGroup`, `IPv6.AreFields`: the spellings of a group, and of groups between colons;
  * `IPv6.IsSpelling`: an IPv6 address is written as all of its groups, or with a gap of two colons
    for one or more zero groups; in both the last two groups may be a dotted quad;
  * `IPv6.ofChars?_eq_some`: an IPv6 address is read from its spellings;
  * `Address.ofText?_eq_some`: **a text is read as an address if and only if it is a spelling of
    it**.  No text is a spelling of two addresses (`Address.IsSpelling.unique`).

  Groups have many spellings: in either case, and with up to three zeros in front.
-/
import TailnetTargets.Proofs.Address.RoundTrip
import TailnetTargets.Proofs.Text.Digits

namespace TailnetTargets

open Text

/-! ## Dotted quads -/

namespace IPv4

theorem eq_toDigits_of_octet? {cs : List Char} {n : UInt8} (h : octet? cs = some n) :
    cs = Nat.toDigits 10 n.toNat := by
  unfold octet? at h
  split at h
  · cases h
  · next hshape =>
    split at h
    · next m hm =>
      split at h
      · next hlt =>
        obtain rfl := Option.some.inj h
        rw [UInt8.toNat_ofNat_of_lt' hlt]
        refine eq_toDigits_of_number? hm ?_
        have hne : cs.length ≠ 0 := by
          rintro hnil
          rw [List.length_eq_zero_iff.1 hnil] at hm
          cases hm
        by_cases hone : cs.length = 1
        · exact Or.inl hone
        · exact Or.inr fun hzero => hshape (Or.inr ⟨by omega, hzero⟩)
      · cases h
    · cases h

/-- An IPv4 address has one spelling. -/
theorem ofChars?_eq_some {cs : List Char} {ip : IPv4} : ofChars? cs = some ip ↔ cs = ip.chars := by
  refine ⟨fun h => ?_, fun h => h ▸ ofChars?_chars ip⟩
  unfold ofChars? at h
  split at h
  · next a b c d hoctets =>
    obtain rfl := Option.some.inj h
    have hfields : fields '.' cs = [a, b, c, d].map fun octet => Nat.toDigits 10 octet.toNat := by
      have hsome : (fields '.' cs).map octet? = [a, b, c, d].map some := hoctets
      rw [← List.forall₂_eq_eq_eq, List.forall₂_map_left_iff, List.forall₂_map_right_iff] at hsome
      rw [← List.forall₂_eq_eq_eq, List.forall₂_map_right_iff]
      exact hsome.imp fun f n hn => eq_toDigits_of_octet? hn
    rw [chars, ← hfields, joinWith_fields]
  · cases h

theorem chars_ne_nil (ip : IPv4) : ip.chars ≠ [] := by
  simp [chars, joinWith]

theorem dot_mem_chars (ip : IPv4) : '.' ∈ ip.chars := by
  simp [chars, joinWith]

theorem isDigit_of_mem_chars {ip : IPv4} {c : Char} (h : c ∈ ip.chars) : c = '.' ∨ c.isDigit := by
  have hdigit : ∀ n, c ∈ Nat.toDigits 10 n → c.isDigit :=
    fun n hn => Nat.isDigit_of_mem_toDigits (by decide) (by decide) hn
  simp only [chars, joinWith, List.map_cons, List.map_nil, List.mem_append, List.mem_cons] at h
  rcases h with h | rfl | h | rfl | h | rfl | h
  · exact Or.inr (hdigit _ h)
  · exact Or.inl rfl
  · exact Or.inr (hdigit _ h)
  · exact Or.inl rfl
  · exact Or.inr (hdigit _ h)
  · exact Or.inl rfl
  · exact Or.inr (hdigit _ h)

theorem colon_notMem_chars (ip : IPv4) : ':' ∉ ip.chars := fun h =>
  absurd (isDigit_of_mem_chars h) (by decide)

end IPv4

/-! ## Groups -/

namespace IPv6

/-- A group is written as one to four hexadecimal digits. -/
structure IsGroup (g : UInt16) (cs : List Char) : Prop where
  ne_nil : cs ≠ []
  length : cs.length ≤ 4
  digits : ∃ ds, List.Forall₂ IsHexDigit cs ds ∧ g.toNat = Nat.ofDigits 16 ds.reverse

/-- Groups are written with one field each, where the last two may be a dotted quad if `quad`
    allows it. -/
inductive AreFields (quad : Bool) : List UInt16 → List (List Char) → Prop
  | nil : AreFields quad [] []
  | quad (ip : IPv4) (h : quad = true) : AreFields quad ip.groups [ip.chars]
  | cons {g : UInt16} {f : List Char} {gs : List UInt16} {fs : List (List Char)}
      (h : IsGroup g f) (hs : AreFields quad gs fs) : AreFields quad (g :: gs) (f :: fs)

/-- The texts which write an address: all groups, or some of them with two colons for a gap of zero
    groups. -/
inductive IsSpelling (ip : IPv6) : List Char → Prop
  | full {fs : List (List Char)} (h : AreFields true ip.groups.toList fs) :
      IsSpelling ip (joinWith ':' fs)
  | gap {before after : List UInt16} {fs hs : List (List Char)} (zeros : Nat)
      (hgroups : ip.groups.toList = before ++ List.replicate (zeros + 1) 0 ++ after)
      (hbefore : AreFields false before fs) (hafter : AreFields true after hs) :
      IsSpelling ip (joinWith ':' fs ++ ':' :: ':' :: joinWith ':' hs)

theorem IsGroup.colon_notMem {g : UInt16} {cs : List Char} (h : IsGroup g cs) : ':' ∉ cs := by
  obtain ⟨ds, hds, -⟩ := h.digits
  exact notMem_of_isHexDigit hds (by decide)

theorem IsGroup.dot_notMem {g : UInt16} {cs : List Char} (h : IsGroup g cs) : '.' ∉ cs := by
  obtain ⟨ds, hds, -⟩ := h.digits
  exact notMem_of_isHexDigit hds (by decide)

theorem group?_eq_some {cs : List Char} {g : UInt16} : group? cs = some g ↔ IsGroup g cs := by
  rw [group?]
  split
  · next hlong => exact ⟨fun h => (by cases h), fun h => absurd h.length (by omega)⟩
  · next hlength =>
    rw [Option.map_eq_some_iff]
    constructor
    · rintro ⟨n, hn, rfl⟩
      obtain ⟨hne, ds, hds, rfl⟩ := number?_hex.1 hn
      refine ⟨hne, by omega, ds, hds, UInt16.toNat_ofNat_of_lt' ?_⟩
      -- four digits write less than two to the sixteenth
      calc Nat.ofDigits 16 ds.reverse < 16 ^ ds.reverse.length := by
            refine Nat.ofDigits_lt_base_pow_length (by decide) fun d hd => ?_
            exact lt_of_isHexDigit hds d (List.mem_reverse.1 hd)
        _ ≤ 16 ^ 4 := by
            rw [List.length_reverse, ← hds.length_eq]
            exact Nat.pow_le_pow_right (by decide) (by omega)
        _ = UInt16.size := by decide
    · rintro ⟨hne, -, ds, hds, hg⟩
      exact ⟨_, number?_hex.2 ⟨hne, ds, hds, rfl⟩, by rw [← hg, UInt16.ofNat_toNat]⟩

/-! ## Groups between colons -/

variable {quad : Bool} {gs : List UInt16} {fs : List (List Char)}

/-- The fields of groups have no colon, and none is empty. -/
theorem AreFields.forall_mem (h : AreFields quad gs fs) : ∀ f ∈ fs, f ≠ [] ∧ ':' ∉ f := by
  induction h with
  | nil => simp
  | quad ip _ => simpa using ⟨ip.chars_ne_nil, ip.colon_notMem_chars⟩
  | cons hg _ ih => exact List.forall_mem_cons.2 ⟨⟨hg.ne_nil, hg.colon_notMem⟩, ih⟩

theorem AreFields.length_le (h : AreFields quad gs fs) : gs.length ≤ fs.length + 1 := by
  induction h with
  | nil => simp
  | quad ip _ => simp [IPv4.groups]
  | cons _ _ ih => simpa using ih

/-- A dotted quad is no group. -/
theorem group?_chars (ip : IPv4) : group? ip.chars = none := by
  refine Option.eq_none_iff_forall_ne_some.2 fun g hg => ?_
  exact (group?_eq_some.1 hg).dot_notMem ip.dot_mem_chars

theorem areFields_of_groups? (h : groups? quad fs = some gs) : AreFields quad gs fs := by
  induction fs generalizing gs with
  | nil =>
    obtain rfl := Option.some.inj h
    exact .nil
  | cons f fs ih =>
    cases fs with
    | nil =>
      rw [groups?] at h
      split at h
      · next g hg =>
        obtain rfl := Option.some.inj h
        exact .cons (group?_eq_some.1 hg) .nil
      · split at h
        · next hquad =>
          obtain ⟨ip, hip, rfl⟩ := Option.map_eq_some_iff.1 h
          obtain rfl := IPv4.ofChars?_eq_some.1 hip
          exact .quad ip hquad
        · cases h
    | cons f' fs =>
      rw [groups?] at h
      split at h
      · next g gs' hg hgs =>
        obtain rfl := Option.some.inj h
        exact .cons (group?_eq_some.1 hg) (ih hgs)
      · cases h
      · simp

theorem groups?_of_areFields (h : AreFields quad gs fs) : groups? quad fs = some gs := by
  induction h with
  | nil => rfl
  | quad ip h => simp [groups?, group?_chars, h, IPv4.ofChars?_chars]
  | @cons g f gs fs hg hs ih =>
    have hf := group?_eq_some.2 hg
    cases fs with
    | nil =>
      obtain rfl : gs = [] := by simpa [groups?, eq_comm] using ih
      simp [groups?, hf]
    | cons f' fs => simp only [groups?, hf, ih]

theorem joinWith_eq_nil (h : ∀ f ∈ fs, f ≠ [] ∧ ':' ∉ f) : joinWith ':' fs = [] ↔ fs = [] := by
  match fs with
  | [] => simp [joinWith]
  | [f] => simpa [joinWith] using (h f (by simp)).1
  | f :: f' :: fs => simp [joinWith]

theorem groupsOf?_eq_some {cs : List Char} :
    groupsOf? quad cs = some gs ↔ ∃ fs, AreFields quad gs fs ∧ cs = joinWith ':' fs := by
  rw [groupsOf?]
  constructor
  · intro h
    split at h
    · next hempty =>
      obtain rfl := Option.some.inj h
      exact ⟨[], .nil, by simpa [joinWith] using hempty⟩
    · exact ⟨fields ':' cs, areFields_of_groups? h, (joinWith_fields ':' cs).symm⟩
  · rintro ⟨fs, hfs, rfl⟩
    split
    · next hempty =>
      obtain rfl := (joinWith_eq_nil hfs.forall_mem).1 (List.isEmpty_iff.1 hempty)
      cases hfs
      rfl
    · next hne =>
      have hfs' : fs ≠ [] := by
        rintro rfl
        exact hne rfl
      rw [fields_joinWith hfs' fun f hf => (hfs.forall_mem f hf).2]
      exact groups?_of_areFields hfs

/-! ## The gap -/

/-- The first pair of colons starts behind a character which starts none. -/
theorem cutAtGap_cons {c : Char} {cs : List Char} (h : c = ':' → cs.head? ≠ some ':') :
    cutAtGap (c :: cs) = (cutAtGap cs).map fun (before, after) => (c :: before, after) := by
  rw [cutAtGap]
  rintro rest rfl rfl
  exact h rfl rfl

theorem cutAtGap_append {f : List Char} (h : ':' ∉ f) (rest : List Char) :
    cutAtGap (f ++ rest) = (cutAtGap rest).map fun (before, after) => (f ++ before, after) := by
  induction f with
  | nil => simp
  | cons c f ih =>
    obtain ⟨hc, hf⟩ : ':' ≠ c ∧ ':' ∉ f := by simpa using h
    rw [List.cons_append, cutAtGap_cons fun heq => absurd heq.symm hc, ih hf, Option.map_map]
    rfl

theorem head?_joinWith_append {sep : Char} {f : List Char} (hf : f ≠ []) (fs : List (List Char))
    (rest : List Char) : (joinWith sep (f :: fs) ++ rest).head? = f.head? := by
  cases fs with
  | nil => exact List.head?_append_of_ne_nil f hf
  | cons g fs =>
    rw [joinWith, List.append_assoc]
    exact List.head?_append_of_ne_nil f hf

/-- Fields which are not empty are not cut. -/
theorem cutAtGap_joinWith_append (h : ∀ f ∈ fs, f ≠ [] ∧ ':' ∉ f) (rest : List Char) :
    cutAtGap (joinWith ':' fs ++ rest) =
      (cutAtGap rest).map fun (before, after) => (joinWith ':' fs ++ before, after) := by
  induction fs with
  | nil => simp [joinWith]
  | cons f fs ih =>
    obtain ⟨⟨-, hf⟩, hfs⟩ := List.forall_mem_cons.1 h
    cases fs with
    | nil => exact cutAtGap_append hf rest
    | cons g fs =>
      obtain ⟨hg, hcolon⟩ := hfs g (by simp)
      have hhead : (joinWith ':' (g :: fs) ++ rest).head? ≠ some ':' := by
        rw [head?_joinWith_append hg]
        exact fun heq => hcolon (List.mem_of_head? heq)
      rw [joinWith, List.append_assoc, List.cons_append, cutAtGap_append hf,
        cutAtGap_cons fun _ => hhead, ih hfs, Option.map_map, Option.map_map]
      congr 1
      funext p
      simp

theorem cutAtGap_joinWith (h : ∀ f ∈ fs, f ≠ [] ∧ ':' ∉ f) : cutAtGap (joinWith ':' fs) = none := by
  have hcut := cutAtGap_joinWith_append h []
  rwa [List.append_nil] at hcut

theorem cutAtGap_joinWith_gap (h : ∀ f ∈ fs, f ≠ [] ∧ ':' ∉ f) (after : List Char) :
    cutAtGap (joinWith ':' fs ++ ':' :: ':' :: after) = some (joinWith ':' fs, after) := by
  rw [cutAtGap_joinWith_append h, cutAtGap]
  simp

/-- A text which is cut has two colons in between. -/
theorem eq_append_of_cutAtGap {cs before after : List Char}
    (h : cutAtGap cs = some (before, after)) : cs = before ++ ':' :: ':' :: after := by
  fun_induction cutAtGap cs generalizing before with
  | case1 rest =>
    obtain ⟨rfl, rfl⟩ := Prod.mk.inj (Option.some.inj h)
    rfl
  | case2 c rest _ ih =>
    obtain ⟨⟨before', after'⟩, hcut, heq⟩ := Option.map_eq_some_iff.1 h
    obtain ⟨rfl, rfl⟩ := Prod.mk.inj heq
    rw [ih hcut, List.cons_append]
  | case3 => cases h

/-! ## Addresses -/

theorem ofGroups?_eq_some {ip : IPv6} : ofGroups? gs = some ip ↔ ip.groups.toList = gs := by
  obtain ⟨⟨groups, hsize⟩⟩ := ip
  rw [ofGroups?]
  constructor
  · intro h
    split at h
    · obtain rfl : gs.toArray = groups := by simpa using h
      simp
    · cases h
  · rintro rfl
    simp [hsize]

theorem isSpelling_of_ofChars? {cs : List Char} {ip : IPv6} (h : ofChars? cs = some ip) :
    ip.IsSpelling cs := by
  rw [ofChars?] at h
  split at h
  · obtain ⟨gs, hgs, hip⟩ := Option.bind_eq_some_iff.1 h
    obtain ⟨fs, hfs, rfl⟩ := groupsOf?_eq_some.1 hgs
    rw [← ofGroups?_eq_some.1 hip] at hfs
    exact .full hfs
  · next before after hcut =>
    split at h
    · next head tail hhead htail =>
      split at h
      · next hle =>
        obtain ⟨fs, hfs, rfl⟩ := groupsOf?_eq_some.1 hhead
        obtain ⟨hs, hhs, rfl⟩ := groupsOf?_eq_some.1 htail
        have hzeros : 8 - head.length - tail.length = 7 - head.length - tail.length + 1 := by
          omega
        rw [hzeros] at h
        rw [eq_append_of_cutAtGap hcut]
        exact .gap _ (ofGroups?_eq_some.1 h) hfs hhs
      · cases h
    · cases h

theorem ofChars?_of_isSpelling {cs : List Char} {ip : IPv6} (h : ip.IsSpelling cs) :
    ofChars? cs = some ip := by
  cases h with
  | full hfs =>
    rw [ofChars?, cutAtGap_joinWith hfs.forall_mem]
    have hgroups := groupsOf?_eq_some.2 ⟨_, hfs, rfl⟩
    simp only [hgroups, Option.bind_some]
    exact ofGroups?_eq_some.2 rfl
  | @gap before after fs hs zeros hgroups hfs hhs =>
    have hlength : before.length + (zeros + 1) + after.length = 8 := by
      have h8 := congrArg List.length hgroups
      simpa [Nat.add_assoc] using h8.symm
    have hzeros : 8 - before.length - after.length = zeros + 1 := by omega
    rw [ofChars?, cutAtGap_joinWith_gap hfs.forall_mem]
    have hbefore := groupsOf?_eq_some.2 ⟨_, hfs, rfl⟩
    have hafter := groupsOf?_eq_some.2 ⟨_, hhs, rfl⟩
    simp only [hbefore, hafter]
    rw [if_pos (by omega), hzeros]
    exact ofGroups?_eq_some.2 hgroups

/-- An IPv6 address is read from its spellings. -/
theorem ofChars?_eq_some {cs : List Char} {ip : IPv6} :
    ofChars? cs = some ip ↔ ip.IsSpelling cs :=
  ⟨isSpelling_of_ofChars?, ofChars?_of_isSpelling⟩

/-- Every spelling of an IPv6 address has a colon. -/
theorem IsSpelling.colon_mem {cs : List Char} {ip : IPv6} (h : ip.IsSpelling cs) : ':' ∈ cs := by
  cases h with
  | @full fs hfs =>
    have hlength := hfs.length_le
    rw [Vector.length_toList] at hlength
    match fs, hlength with
    | f :: g :: fs, _ => simp [joinWith]
  | gap => simp

end IPv6

namespace Address

/-- The texts which write an address. -/
def IsSpelling : Address → List Char → Prop
  | .v4 ip, cs => cs = ip.chars
  | .v6 ip, cs => ip.IsSpelling cs

theorem ofChars?_eq_some {cs : List Char} {a : Address} :
    ofChars? cs = some a ↔ a.IsSpelling cs := by
  have hquad : ∀ {ip : IPv6} {ip4 : IPv4}, ¬ ip.IsSpelling ip4.chars :=
    fun {_ ip4} h => ip4.colon_notMem_chars h.colon_mem
  rw [ofChars?]
  cases a with
  | v4 ip =>
    rw [IsSpelling, ← IPv4.ofChars?_eq_some]
    split
    · next ip' hip => simp [hip]
    · next hnone => simp [hnone]
  | v6 ip =>
    rw [IsSpelling, ← IPv6.ofChars?_eq_some]
    split
    · next ip4 hip4 =>
      obtain rfl := IPv4.ofChars?_eq_some.1 hip4
      have hnot : IPv6.ofChars? ip4.chars ≠ some ip := fun h => hquad (IPv6.ofChars?_eq_some.1 h)
      simp [hnot]
    · simp

/-- **A text is read as an address if and only if it is a spelling of it.** -/
theorem ofText?_eq_some {s : String} {a : Address} :
    ofText? s = some a ↔ a.IsSpelling s.toList :=
  ofChars?_eq_some

/-- No text is a spelling of two addresses. -/
theorem IsSpelling.unique {cs : List Char} {a b : Address} (ha : a.IsSpelling cs)
    (hb : b.IsSpelling cs) : a = b :=
  Option.some.inj ((ofChars?_eq_some.2 ha).symm.trans (ofChars?_eq_some.2 hb))

end Address

end TailnetTargets
