/-
  What the members of an object make of a record.

  * `Json.IsWhole`: a value which was read to its end, and which is passed over without a fault;
  * `Decoder.ofBytes_eq`: what is read of a document is what is read of its value;
  * `Decoder.list_eq_ok`: a list is read iff all of its items are;
  * `Format.Makes`: the fields which members name, each of them once, and what they change together;
  * `Format.decode_object`: an object is read iff its members make something of the record and name
    all fields which have to occur;
  * `Format.Makes.perm`: the order of members does not count where fields are independent of each
    other.
-/
import Mathlib.Data.List.Pairwise
import TailnetTargets.Json.Decode

namespace TailnetTargets

theorem Except.bind_eq_ok {ε α β : Type} {x : Except ε α} {f : α → Except ε β} {b : β}
    (h : x >>= f = .ok b) : ∃ a, x = .ok a ∧ f a = .ok b := by
  cases x with
  | error e => cases h
  | ok a => exact ⟨a, rfl, h⟩

theorem Except.map_eq_ok {ε α β : Type} {x : Except ε α} {f : α → β} {b : β}
    (h : x.map f = .ok b) : ∃ a, x = .ok a ∧ f a = b := by
  cases x <;> cases h
  exact ⟨_, rfl, rfl⟩

/-! ## Values which are passed over -/

/-- A value which was read to its end, whatever its texts and numbers are. -/
inductive Json.IsWhole : Json → Prop
  | null : IsWhole .null
  | bool (b : Bool) : IsWhole (.bool b)
  | number (spelling : List Char) : IsWhole (.number spelling)
  | text (content : Option String) : IsWhole (.text content)
  | array {items : List Json} (h : ∀ item ∈ items, IsWhole item) : IsWhole (.array items none)
  | object {members : List (Option String × Json)} (h : ∀ m ∈ members, IsWhole m.2) :
      IsWhole (.object members none)

theorem Json.skipItems_eq_none {items : List Json} (h : ∀ item ∈ items, item.skip = none) :
    skipItems items none = none := by
  induction items with
  | nil => rfl
  | cons item items ih =>
    rw [skipItems, h item (by simp)]
    exact ih fun i hi => h i (by simp [hi])

theorem Json.skipMembers_eq_none {members : List (Option String × Json)}
    (h : ∀ m ∈ members, m.2.skip = none) : skipMembers members none = none := by
  induction members with
  | nil => rfl
  | cons m members ih =>
    rw [skipMembers, h m (by simp)]
    exact ih fun n hn => h n (by simp [hn])

theorem Json.IsWhole.skip {v : Json} (h : v.IsWhole) : v.skip = none := by
  induction h with
  | null | bool | number | text => rfl
  | array _ ih => exact skipItems_eq_none ih
  | object _ ih => exact skipMembers_eq_none ih

/-! ## Documents -/

theorem Decoder.ofBytes_eq {α : Type} (decoder : Decoder α) {bytes : List UInt8} {v : Json}
    (h : Document.ofBytes bytes = ⟨v, false⟩) : decoder.ofBytes bytes = decoder v := by
  rw [Decoder.ofBytes, h, Decoder.run]
  cases decoder v <;> rfl

/-! ## Lists -/

namespace Decoder

variable {α : Type} {item : Decoder α} {values : List Json} {as : List α}

theorem items_eq_ok :
    items item values = .ok as ↔ List.Forall₂ (fun v a => item v = .ok a) values as := by
  constructor
  · intro h
    induction values generalizing as with
    | nil => cases h; exact .nil
    | cons v values ih =>
      obtain ⟨a, ha, h⟩ := Except.bind_eq_ok h
      obtain ⟨as', has, h⟩ := Except.bind_eq_ok h
      cases h
      exact .cons ha (ih has)
  · intro h
    induction h with
    | nil => rfl
    | cons ha _ ih => rw [items, ha, ih]; rfl

theorem exists_of_items_error {e : JsonError} (h : items item values = .error e) :
    ∃ v ∈ values, item v = .error e := by
  induction values with
  | nil => cases h
  | cons v values ih =>
    rw [items] at h
    cases hv : item v with
    | error e' =>
      rw [hv] at h
      cases h
      exact ⟨v, by simp, hv⟩
    | ok a =>
      cases hvalues : items item values with
      | error e' =>
        rw [hv, hvalues] at h
        cases h
        obtain ⟨u, hu, he⟩ := ih hvalues
        exact ⟨u, by simp [hu], he⟩
      | ok as =>
        rw [hv, hvalues] at h
        cases h

theorem list_eq_ok :
    list item (.list values) = .ok as ↔ List.Forall₂ (fun v a => item v = .ok a) values as := by
  rw [← items_eq_ok, Json.list, list]
  cases items item values <;> rfl

end Decoder

/-! ## Members -/

namespace Format

variable {α : Type} {fmt : Format α}

/-- The fields which members name, each of them once, and what they change together.  Other members
    are passed over. -/
inductive Makes (fmt : Format α) : List (Option String × Json) → List String → (α → α) → Prop
  | nil : Makes fmt [] [] id
  | field {key : String} {value : Json} {rest : List (Option String × Json)} {f : Field α}
      {names : List String} {put change : α → α} (hf : fmt.field? key = some f)
      (hnew : f.name ∉ names) (hread : f.read value = .ok put) (h : Makes fmt rest names change) :
      Makes fmt ((some key, value) :: rest) (f.name :: names) (change ∘ put)
  | other {key : String} {value : Json} {rest : List (Option String × Json)} {names : List String}
      {change : α → α} (hf : fmt.field? key = none) (hskip : value.skip = none)
      (h : Makes fmt rest names change) : Makes fmt ((some key, value) :: rest) names change

section
variable {members : List (Option String × Json)} {names : List String} {change : α → α}

theorem readMembers_of_makes (h : fmt.Makes members names change) {seen : List String}
    (hseen : ∀ n ∈ names, n ∉ seen) (record : α) :
    fmt.readMembers seen record members = .ok (names.reverse ++ seen, change record) := by
  induction h generalizing seen record with
  | nil => rfl
  | @field key value rest f names put change hf hnew hread _ ih =>
    have hf' : f.name ∉ seen := hseen _ (by simp)
    have hnames : ∀ n ∈ names, n ∉ f.name :: seen := by
      intro n hn hmem
      rcases List.mem_cons.1 hmem with rfl | hmem
      · exact hnew hn
      · exact hseen n (by simp [hn]) hmem
    simp [readMembers, Decoder.key, hf, hf', hread, ih hnames, bind, Except.bind]
  | other hf hskip _ ih =>
    simp [readMembers, Decoder.key, hf, hskip, ih hseen, bind, Except.bind]

theorem exists_makes {seen seen' : List String} {record record' : α}
    (h : fmt.readMembers seen record members = .ok (seen', record')) :
    ∃ names change, fmt.Makes members names change ∧ (∀ n ∈ names, n ∉ seen) ∧
      seen' = names.reverse ++ seen ∧ record' = change record := by
  induction members generalizing seen record with
  | nil => cases h; exact ⟨[], id, .nil, by simp⟩
  | cons m members ih =>
    obtain ⟨key?, value⟩ := m
    obtain ⟨key, hkey, hrest⟩ := Except.bind_eq_ok h
    obtain rfl : key? = some key := by cases key? <;> cases hkey; rfl
    split at hrest
    · next f hf =>
      split at hrest
      · cases hrest
      · next hnew =>
        obtain ⟨put, hread, hrest⟩ := Except.bind_eq_ok hrest
        obtain ⟨names, change, hmakes, hseen, rfl, rfl⟩ := ih hrest
        have hf' : f.name ∉ names := fun hmem => hseen _ hmem (by simp)
        refine ⟨_, _, .field hf hf' hread hmakes, ?_, by simp, rfl⟩
        intro n hn hmem
        rcases List.mem_cons.1 hn with rfl | hn
        · exact hnew (by simpa using hmem)
        · exact hseen n hn (by simp [hmem])
    · next hf =>
      split at hrest
      · cases hrest
      · next hskip =>
        obtain ⟨names, change, hmakes, hseen, rfl, rfl⟩ := ih hrest
        exact ⟨names, change, .other hf hskip hmakes, hseen, rfl, rfl⟩

theorem missing?_eq_none {seen : List String} :
    fmt.missing? seen = none ↔ ∀ f ∈ fmt.fields, f.required → f.name ∈ seen := by
  simp [missing?]

/-- **An object is read iff its members make something of the record** and name all fields which have
    to occur. -/
theorem decode_object {ending : Option Flaw} {record : α} :
    fmt.decode (.object members ending) = .ok record ↔
      ending = none ∧ ∃ names change, fmt.Makes members names change ∧
        (∀ f ∈ fmt.fields, f.required → f.name ∈ names) ∧ record = change fmt.start := by
  constructor
  · intro h
    obtain ⟨⟨seen, record'⟩, hread, hrest⟩ := Except.bind_eq_ok h
    obtain ⟨_, hended, hlast⟩ := Except.bind_eq_ok hrest
    obtain rfl : ending = none := by cases ending <;> cases hended; rfl
    obtain ⟨names, change, hmakes, -, rfl, rfl⟩ := exists_makes hread
    split at hlast
    · cases hlast
    · next hmissing =>
      refine ⟨rfl, names, change, hmakes, fun f hf hreq => ?_, (Except.ok.inj hlast).symm⟩
      simpa using missing?_eq_none.1 hmissing f hf hreq
  · rintro ⟨rfl, names, change, hmakes, hrequired, rfl⟩
    have hunseen : ∀ n ∈ names, n ∉ ([] : List String) := fun n _ => List.not_mem_nil
    have hread := readMembers_of_makes hmakes hunseen fmt.start
    have hmissing : fmt.missing? (names.reverse ++ []) = none :=
      missing?_eq_none.2 fun f hf hreq => by simpa using hrequired f hf hreq
    simp only [decode, hread, bind, Except.bind, Decoder.ended, hmissing]

theorem Makes.mem_names (h : fmt.Makes members names change) {name : String} :
    name ∈ names ↔
      ∃ key value f, (some key, value) ∈ members ∧ fmt.field? key = some f ∧ f.name = name := by
  induction h with
  | nil => simp
  | @field key value rest f names put change hf _ _ _ ih =>
    rw [List.mem_cons, ih]
    constructor
    · rintro (rfl | ⟨key', value', g, hmem, hg⟩)
      · exact ⟨key, value, f, by simp, hf, rfl⟩
      · exact ⟨key', value', g, by simp [hmem], hg⟩
    · rintro ⟨key', value', g, hmem, hg, rfl⟩
      rcases List.mem_cons.1 hmem with heq | hmem
      · cases heq
        exact Or.inl (by rw [hf] at hg; cases hg; rfl)
      · exact Or.inr ⟨key', value', g, hmem, hg, rfl⟩
  | @other key value rest names change hf _ _ ih =>
    rw [ih]
    constructor
    · rintro ⟨key', value', g, hmem, hg⟩
      exact ⟨key', value', g, by simp [hmem], hg⟩
    · rintro ⟨key', value', g, hmem, hg, rfl⟩
      rcases List.mem_cons.1 hmem with heq | hmem
      · cases heq
        rw [hf] at hg
        cases hg
      · exact ⟨key', value', g, hmem, hg, rfl⟩

/-- Members which come after others make something for themselves. -/
theorem Makes.of_append {before : List (Option String × Json)}
    (h : fmt.Makes (before ++ members) names change) :
    ∃ names' change', fmt.Makes members names' change' := by
  induction before generalizing names change with
  | nil => exact ⟨_, _, h⟩
  | cons m before ih =>
    cases h with
    | field _ _ _ h => exact ih h
    | other _ _ h => exact ih h

/-- Members of which two name one field make nothing of a record. -/
theorem not_makes_of_twice {before middle after : List (Option String × Json)}
    {key key' : String} {value value' : Json} {f g : Field α} (hf : fmt.field? key = some f)
    (hg : fmt.field? key' = some g) (hname : f.name = g.name) :
    ¬ fmt.Makes (before ++ (some key, value) :: (middle ++ (some key', value') :: after))
      names change := by
  intro h
  obtain ⟨names', change', h⟩ := h.of_append
  cases h with
  | field hf' hnew _ h =>
    obtain rfl := Option.some.inj (hf.symm.trans hf')
    exact hnew (h.mem_names.2 ⟨key', value', g, by simp, hg, hname.symm⟩)
  | other hnone _ _ => simp [hf] at hnone

end

/-! ## The order of members -/

/-- Two fields change different parts of a record: it does not matter which of them is read first. -/
def Commute (f g : Field α) : Prop :=
  ∀ v w put put', f.read v = .ok put → g.read w = .ok put' → put ∘ put' = put' ∘ put

instance : Std.Symm (Commute (α := α)) :=
  ⟨fun _ _ h v w put put' hput hput' => (h w v put' put hput' hput).symm⟩

theorem commute_of_put {β γ : Type} {f g : Field α} {decoder : Decoder β} {decoder' : Decoder γ}
    {put : β → α → α} {put' : γ → α → α} (hf : f.read = fun v => (decoder v).map put)
    (hg : g.read = fun v => (decoder' v).map put')
    (h : ∀ b c record, put b (put' c record) = put' c (put b record)) : Commute f g := by
  intro v w p p' hp hp'
  rw [hf] at hp
  rw [hg] at hp'
  obtain ⟨b, -, rfl⟩ := Except.map_eq_ok hp
  obtain ⟨c, -, rfl⟩ := Except.map_eq_ok hp'
  exact funext (h b c)

/-- All fields of a record change different parts of it. -/
def IsIndependent (fmt : Format α) : Prop := fmt.fields.Pairwise Commute

theorem IsIndependent.commute (h : fmt.IsIndependent) {f g : Field α} (hf : f ∈ fmt.fields)
    (hg : g ∈ fmt.fields) (hne : f.name ≠ g.name) : Commute f g :=
  List.Pairwise.forall h hf hg fun heq => hne (congrArg Field.name heq)

theorem mem_of_field? {key : String} {f : Field α} (h : fmt.field? key = some f) :
    f ∈ fmt.fields := List.mem_of_find?_eq_some h

/-- **The order of members does not count** where fields are independent of each other. -/
theorem Makes.perm (hfmt : fmt.IsIndependent) {members members' : List (Option String × Json)}
    (hperm : members.Perm members') {names : List String} {change : α → α}
    (h : fmt.Makes members names change) :
    ∃ names', names.Perm names' ∧ fmt.Makes members' names' change := by
  induction hperm generalizing names change with
  | nil => exact ⟨names, .refl _, h⟩
  | cons m _ ih =>
    cases h with
    | field hf hnew hread h =>
      obtain ⟨names', hnames, h'⟩ := ih h
      exact ⟨_, hnames.cons _, .field hf (fun hmem => hnew (hnames.mem_iff.2 hmem)) hread h'⟩
    | other hf hskip h =>
      obtain ⟨names', hnames, h'⟩ := ih h
      exact ⟨_, hnames, .other hf hskip h'⟩
  | swap m m' rest =>
    cases h with
    | @field _ _ _ f _ put _ hf hnew hread h =>
      cases h with
      | @field _ _ _ g names put' change hg hnew' hread' h =>
        have hne : f.name ≠ g.name := fun heq => hnew (by simp [heq])
        have hcomm : put ∘ put' = put' ∘ put :=
          hfmt.commute (mem_of_field? hf) (mem_of_field? hg) hne _ _ _ _ hread hread'
        have hchange : (change ∘ put') ∘ put = (change ∘ put) ∘ put' := by
          rw [Function.comp_assoc, ← hcomm, Function.comp_assoc]
        have hf' : f.name ∉ names := fun hmem => hnew (by simp [hmem])
        have hg' : g.name ∉ f.name :: names := by simpa using ⟨hne.symm, hnew'⟩
        exact ⟨_, .swap .., hchange ▸ .field hg hg' hread' (.field hf hf' hread h)⟩
      | other hg hskip h =>
        exact ⟨_, .refl _, .other hg hskip (.field hf hnew hread h)⟩
    | other hf hskip h =>
      cases h with
      | field hg hnew hread h =>
        exact ⟨_, .refl _, .field hg hnew hread (.other hf hskip h)⟩
      | other hg hskip' h =>
        exact ⟨_, .refl _, .other hg hskip' (.other hf hskip h)⟩
  | trans _ _ ih ih' =>
    obtain ⟨names', hnames, h'⟩ := ih h
    obtain ⟨names'', hnames', h''⟩ := ih' h'
    exact ⟨names'', hnames.trans hnames', h''⟩

end Format

end TailnetTargets
