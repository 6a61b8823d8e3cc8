/-
  Fields which are `null`, and the same documents without them.

  * `Json.NullLeftOut`: a record with a field which is `null`, and the record without that field;
  * `Json.FieldChange`, `Json.EntryChange`: a change of the value of one field of a record, and of
    one value of a map;
  * `Comparison`: a comparison of two results which lasts when both go on in one way.  They are the
    same (`Comparison.same`), or the first one is an error, for a type alone where the second one is
    a value (`Comparison.refused`);
  * `Decoder.Compares`: the results of a decoder before and after a change compare.  So they do for
    fields, values which may be `null`, maps and records;
  * `Field.IsLenient`, `Field.IsStrict`: a field for which `null` stands for nothing, and one which
    is not read from `null`;
  * `Format.same_of_null`: **a lenient field which is `null` may be left out**;
  * `Format.refused_of_null`: **a strict field which is `null` fails the whole record**.
-/
import Mathlib.Data.List.Find
import Mathlib.Logic.Relation
import TailnetTargets.Proofs.Json.Fields

namespace TailnetTargets

/-! ## Changes -/

namespace Json

/-- A record with a field of one of the names `which` that is `null`, and the record without it.
    Of the items of an array only the last one can be left out. -/
inductive NullLeftOut (names which : List String) : Json → Json → Prop
  /-- the only member of its name -/
  | member {before after : List (Option String × Json)} {ending : Option Flaw} {name : String}
      (hname : name ∈ which) (honly : ∀ m ∈ before ++ after, m.1 ≠ some name) :
      NullLeftOut names which (.object (before ++ (some name, .null) :: after) ending)
        (.object (before ++ after) ending)
  /-- the last item -/
  | item {items : List Json} {ending : Option Flaw} {name : String} (hname : name ∈ which)
      (hplace : names[items.length]? = some name) :
      NullLeftOut names which (.array (items ++ [.null]) ending) (.array items ending)

/-- A change of the value of one field of a record. -/
inductive FieldChange (names : List String) (name : String) (change : Json → Json → Prop) :
    Json → Json → Prop
  /-- the value of a member -/
  | member {before after : List (Option String × Json)} {ending : Option Flaw} {value value' : Json}
      (h : change value value') :
      FieldChange names name change (.object (before ++ (some name, value) :: after) ending)
        (.object (before ++ (some name, value') :: after) ending)
  /-- an item -/
  | item {before after : List Json} {ending : Option Flaw} {value value' : Json}
      (hplace : names[before.length]? = some name) (h : change value value') :
      FieldChange names name change (.array (before ++ value :: after) ending)
        (.array (before ++ value' :: after) ending)

/-- A change of one value of a map, which may be a value that a later one of its key replaces. -/
inductive EntryChange (change : Json → Json → Prop) : Json → Json → Prop
  | intro {before after : List (Option String × Json)} {ending : Option Flaw}
      {key : Option String} {value value' : Json} (h : change value value') :
      EntryChange change (.object (before ++ (key, value) :: after) ending)
        (.object (before ++ (key, value') :: after) ending)

theorem NullLeftOut.ne_null {names which : List String} {value value' : Json}
    (h : NullLeftOut names which value value') : value ≠ .null ∧ value' ≠ .null := by
  cases h <;> simp

theorem EntryChange.ne_null {change : Json → Json → Prop} {value value' : Json}
    (h : EntryChange change value value') : value ≠ .null ∧ value' ≠ .null := by
  cases h
  simp

end Json

/-! ## Comparisons -/

/-- A comparison of results which holds between an error and itself, and which lasts when both
    results go on in one way. -/
structure Comparison where
  /-- whether it holds between two results -/
  holds : ∀ {α : Type}, Except JsonError α → Except JsonError α → Prop
  error : ∀ {α : Type} (cause : JsonError), holds (α := α) (.error cause) (.error cause)
  bind : ∀ {α β : Type} {x y : Except JsonError α}, holds x y → ∀ f : α → Except JsonError β,
    holds (x >>= f) (y >>= f)

namespace Comparison

variable {α β : Type}

/-- The two results are the same, be they a value or an error. -/
def same : Comparison where
  holds x y := x = y
  error _ := rfl
  bind h f := congrArg (· >>= f) h

/-- The first result is an error, and that for a type alone where the second one is a value. -/
def refused : Comparison where
  holds x y := ∃ cause, x = .error cause ∧ ((∃ a, y = .ok a) → cause = .mismatch)
  error cause := ⟨cause, rfl, fun ⟨_, h⟩ => by cases h⟩
  bind := by
    rintro α β _ y ⟨cause, rfl, hcause⟩ f
    refine ⟨cause, rfl, fun ⟨b, hb⟩ => ?_⟩
    obtain ⟨a, ha, -⟩ := Except.bind_eq_ok hb
    exact hcause ⟨a, ha⟩

theorem map (c : Comparison) {x y : Except JsonError α} (h : c.holds x y) (f : α → β) :
    c.holds (x.map f) (y.map f) := by
  have hmap : ∀ z : Except JsonError α, z.map f = z >>= fun a => .ok (f a) := fun z => by
    cases z <;> rfl
  rw [hmap, hmap]
  exact c.bind h _

theorem bind_same (c : Comparison) {x : Except JsonError α} {f g : α → Except JsonError β}
    (h : ∀ a, x = .ok a → c.holds (f a) (g a)) : c.holds (x >>= f) (x >>= g) := by
  cases x with
  | error cause => exact c.error cause
  | ok a => exact h a rfl

end Comparison

namespace Decoder

variable {α β : Type} {decoder : Decoder α} {c : Comparison} {change : Json → Json → Prop}

/-- The results of a decoder before and after a change compare. -/
def Compares (decoder : Decoder α) (c : Comparison) (change : Json → Json → Prop) : Prop :=
  ∀ value value', change value value' → c.holds (decoder value) (decoder value')

theorem Compares.reflTransGen (h : decoder.Compares .same change) :
    decoder.Compares .same (Relation.ReflTransGen change) := by
  intro value value' hchange
  induction hchange with
  | refl => rfl
  | tail _ hlast ih => exact Eq.trans ih (h _ _ hlast)

theorem Compares.field (h : decoder.Compares c change) (name : String) (put : α → β → β) :
    Decoder.Compares (decoder.field name put).read c change :=
  fun value value' hchange => c.map (h value value' hchange) put

theorem Compares.nullable (h : decoder.Compares c change)
    (hnull : ∀ {value value'}, change value value' → value ≠ .null ∧ value' ≠ .null) :
    (Decoder.nullable decoder).Compares c change := by
  intro value value' hchange
  rw [nullable_of_ne (hnull hchange).1, nullable_of_ne (hnull hchange).2]
  exact c.map (h value value' hchange) some

theorem entries_append (m : KeyMap α) (before rest : List (Option String × Json)) :
    entries decoder m (before ++ rest) =
      entries decoder m before >>= fun m => entries decoder m rest := by
  induction before generalizing m with
  | nil => rfl
  | cons e before ih => simp only [List.cons_append, entries, ih, bind_assoc]

/-- Maps compare, if the values do which are changed in them. -/
theorem Compares.keyMap (h : decoder.Compares c change) :
    (Decoder.keyMap decoder).Compares c (Json.EntryChange change) := by
  rintro _ _ ⟨hchange⟩
  simp only [Decoder.keyMap, entries_append]
  refine c.bind (c.bind_same fun m _ => ?_) _
  exact c.bind_same fun key _ => c.bind (h _ _ hchange) _

end Decoder

/-! ## Fields -/

/-- A field for which `null` stands for nothing: it need not occur, and with `null` it leaves the
    record as it is at the start. -/
structure Field.IsLenient {α : Type} (f : Field α) (start : α) : Prop where
  required : f.required = false
  read : ∃ put, f.read .null = .ok put ∧ put start = start

/-- A field which is not read from `null`. -/
def Field.IsStrict {α : Type} (f : Field α) : Prop := f.read .null = .error .mismatch

namespace Format

variable {α : Type} {fmt : Format α} {names which : List String} {name : String}

/-- A name names one field. -/
theorem IsPlain.field?_eq_some (h : fmt.IsPlain names) {f : Field α} (hf : f ∈ fmt.fields) :
    fmt.field? f.name = some f := by
  have hmem : f.name ∈ names := h.names_eq ▸ List.mem_map_of_mem hf
  cases hg : fmt.field? f.name with
  | none => exact absurd hmem (h.field?_eq_none.1 hg)
  | some g =>
    have hnodup : (fmt.fields.map (·.name)).Nodup := h.names_eq ▸ h.nodup
    rw [List.inj_on_of_nodup_map hnodup (mem_of_field? hg) hf (h.name_eq hg)]

/-- The field in whose place an item stands. -/
theorem IsPlain.exists_split (h : fmt.IsPlain names) {place : Nat} {f : Field α}
    (hf : fmt.field? name = some f) (hplace : names[place]? = some name) :
    ∃ before after, fmt.fields = before ++ f :: after ∧ before.length = place := by
  rw [← h.names_eq, List.getElem?_map, Option.map_eq_some_iff] at hplace
  obtain ⟨g, hg, rfl⟩ := hplace
  obtain ⟨hlt, rfl⟩ := List.getElem?_eq_some_iff.1 hg
  obtain rfl := Option.some.inj ((h.field?_eq_some (List.getElem_mem hlt)).symm.trans hf)
  refine ⟨fmt.fields.take place, fmt.fields.drop (place + 1), ?_, ?_⟩
  · rw [← List.drop_eq_getElem_cons hlt, List.take_append_drop]
  · rw [List.length_take, Nat.min_eq_left (Nat.le_of_lt hlt)]

/-! ## Objects -/

section
variable {seen seen' : List String} {record : α} {before after : List (Option String × Json)}
  {ending : Option Flaw}

theorem readMembers_append (seen : List String) (record : α)
    (before rest : List (Option String × Json)) :
    fmt.readMembers seen record (before ++ rest) =
      fmt.readMembers seen record before >>= fun r => fmt.readMembers r.1 r.2 rest := by
  induction before generalizing seen record with
  | nil => rfl
  | cons m before ih =>
    simp only [List.cons_append, readMembers, bind_assoc]
    refine congrArg _ (funext fun key => ?_)
    split
    · split
      · rfl
      · simp only [bind_assoc, ih]
    · split
      · rfl
      · exact ih seen record

theorem readMembers_field {key : String} {f : Field α} (hf : fmt.field? key = some f) (value : Json)
    (rest : List (Option String × Json)) :
    fmt.readMembers seen record ((some key, value) :: rest) =
      if seen.contains f.name then .error (.duplicateField f.name)
      else f.read value >>= fun put => fmt.readMembers (f.name :: seen) (put record) rest := by
  simp only [readMembers, Decoder.key, hf, bind, Except.bind]

/-- A name which no member has is not seen. -/
theorem not_mem_seen (hplain : fmt.IsPlain names) (hnone : ∀ m ∈ before, m.1 ≠ some name)
    (h : fmt.readMembers [] fmt.start before = .ok (seen, record)) : name ∉ seen := by
  obtain ⟨read, change, hmakes, -, rfl, -⟩ := exists_makes h
  rw [List.append_nil, List.mem_reverse, hmakes.mem_names]
  rintro ⟨key, value, f, hmem, hf, rfl⟩
  exact hnone _ hmem (by rw [hplain.name_eq hf])

/-- What a field makes of a record can be done before or after what other fields make of it. -/
theorem Makes.comp_comm (hind : fmt.IsIndependent) {members : List (Option String × Json)}
    {read : List String} {change put : α → α} (h : fmt.Makes members read change) {f : Field α}
    (hf : f ∈ fmt.fields) (hnot : f.name ∉ read) {value : Json} (hread : f.read value = .ok put) :
    put ∘ change = change ∘ put := by
  induction h with
  | nil => rfl
  | @field key value' rest g read put' change hg hnew hread' _ ih =>
    obtain ⟨hne, hnot⟩ : f.name ≠ g.name ∧ f.name ∉ read := by simpa using hnot
    have hcomm : put ∘ put' = put' ∘ put :=
      hind.commute hf (mem_of_field? hg) hne _ _ _ _ hread hread'
    calc put ∘ change ∘ put' = (put ∘ change) ∘ put' := rfl
      _ = change ∘ (put ∘ put') := by rw [ih hnot]; rfl
      _ = (change ∘ put') ∘ put := by rw [hcomm]; rfl
  | other _ _ _ ih => exact ih hnot

/-- A lenient field leaves the record of other members as it is. -/
theorem put_null_eq (hplain : fmt.IsPlain names) (hind : fmt.IsIndependent) {f : Field α}
    (hf : f ∈ fmt.fields) (hnone : ∀ m ∈ before, m.1 ≠ some f.name) {put : α → α}
    (hread : f.read .null = .ok put) (hput : put fmt.start = fmt.start)
    (h : fmt.readMembers [] fmt.start before = .ok (seen, record)) : put record = record := by
  have hnot := not_mem_seen hplain hnone h
  obtain ⟨read, change, hmakes, -, rfl, rfl⟩ := exists_makes h
  rw [List.append_nil, List.mem_reverse] at hnot
  have hcomm := congrFun (hmakes.comp_comm hind hf hnot hread) fmt.start
  rw [Function.comp_apply, Function.comp_apply, hput] at hcomm
  exact hcomm

theorem missing?_congr (hplain : fmt.IsPlain names) {f : Field α} (hf : fmt.field? name = some f)
    (hfree : f.required = false) (hseen : ∀ n, n ≠ name → (n ∈ seen ↔ n ∈ seen')) :
    fmt.missing? seen = fmt.missing? seen' := by
  refine List.find?_congr fun g hg => ?_
  by_cases hname : g.name = name
  · obtain rfl := Option.some.inj ((hname ▸ hplain.field?_eq_some hg).symm.trans hf)
    simp [hfree]
  · simp [hseen g.name hname]

/-- Whether a field was seen makes no difference, if it need not occur and no member names it. -/
theorem readMembers_seen (hplain : fmt.IsPlain names) {f : Field α}
    (hf : fmt.field? name = some f) (hfree : f.required = false)
    (hnone : ∀ m ∈ after, m.1 ≠ some name) (hseen : ∀ n, n ≠ name → (n ∈ seen ↔ n ∈ seen')) :
    (fmt.readMembers seen record after).map (Prod.map fmt.missing? id) =
      (fmt.readMembers seen' record after).map (Prod.map fmt.missing? id) := by
  induction after generalizing seen seen' record with
  | nil =>
    have hmissing := missing?_congr hplain hf hfree hseen
    exact congrArg (fun missing => Except.ok (missing, record)) hmissing
  | cons m after ih =>
    obtain ⟨hm, hafter⟩ := List.forall_mem_cons.1 hnone
    obtain ⟨_ | key, value⟩ := m
    · rfl
    cases hg : fmt.field? key with
    | none =>
      simp only [readMembers, Decoder.key, hg, bind, Except.bind]
      split
      · rfl
      · exact ih hafter hseen
    | some g =>
      have hne : g.name ≠ name := by
        rw [hplain.name_eq hg]
        rintro rfl
        exact hm rfl
      have hcons : ∀ n, n ≠ name → (n ∈ g.name :: seen ↔ n ∈ g.name :: seen') := fun n hn => by
        rw [List.mem_cons, List.mem_cons, hseen n hn]
      rw [readMembers_field hg, readMembers_field hg]
      simp only [List.contains_iff_mem, hseen g.name hne]
      split
      · rfl
      · cases g.read value with
        | error cause => rfl
        | ok put => exact ih hafter hcons

/-- An object depends on what its members make of the record and on which field they miss. -/
theorem decode_object_eq {members members' : List (Option String × Json)}
    (h : (fmt.readMembers [] fmt.start members).map (Prod.map fmt.missing? id) =
      (fmt.readMembers [] fmt.start members').map (Prod.map fmt.missing? id))
    (ending : Option Flaw) :
    fmt.decode (.object members ending) = fmt.decode (.object members' ending) := by
  simp only [decode]
  generalize fmt.readMembers [] fmt.start members = x at h ⊢
  generalize fmt.readMembers [] fmt.start members' = y at h ⊢
  rcases x with cause | ⟨seen, record⟩ <;> rcases y with cause' | ⟨seen', record'⟩
  · cases h
    rfl
  · cases h
  · cases h
  · obtain ⟨hmissing, rfl⟩ := Prod.mk.inj (Except.ok.inj h)
    simp only [bind, Except.bind, hmissing, id]

end

/-! ## Arrays -/

/-- The record after items were read as the values of the first fields. -/
def readFront (record : α) : List (Field α) → List Json → Except JsonError α
  | f :: fields, value :: values => do
    let put ← f.read value
    readFront (put record) fields values
  | _, _ => .ok record

section
variable {record record' : α} {ending : Option Flaw} {fields : List (Field α)} {items : List Json}

theorem readItems_append {front : List (Field α)} (h : front.length = items.length)
    (record : α) (rest : List Json) :
    readItems record ending (front ++ fields) (items ++ rest) =
      readFront record front items >>= fun record => readItems record ending fields rest := by
  induction items generalizing front record with
  | nil =>
    obtain rfl := List.length_eq_zero_iff.1 h
    rfl
  | cons value items ih =>
    obtain _ | ⟨f, front⟩ := front
    · cases h
    · simp only [List.cons_append, readItems, readFront, bind_assoc,
        ih (Nat.succ.inj h)]

theorem readItems_append_nil {front : List (Field α)} (h : front.length = items.length)
    (record : α) : readItems record ending (front ++ fields) items =
      readFront record front items >>= fun record => readItems record ending fields [] := by
  rw [← readItems_append h, List.append_nil]

/-- What leaves a record as it is leaves it so after other fields were read. -/
theorem readFront_fixed {front : List (Field α)} {f : Field α} (hcomm : ∀ g ∈ front, Commute g f)
    {value : Json} {put : α → α} (hread : f.read value = .ok put) (hput : put record = record)
    (h : readFront record front items = .ok record') : put record' = record' := by
  induction front generalizing items record with
  | nil => cases h; exact hput
  | cons g front ih =>
    obtain ⟨hg, hfront⟩ := List.forall_mem_cons.1 hcomm
    cases items with
    | nil => cases h; exact hput
    | cons v items =>
      obtain ⟨put', hread', h⟩ := Except.bind_eq_ok h
      refine ih hfront ?_ h
      have hswap := congrFun (hg _ _ _ _ hread' hread) record
      rw [Function.comp_apply, Function.comp_apply, hput] at hswap
      exact hswap.symm

/-- Behind the last item a field which need not occur is as good as none. -/
theorem readItems_nil_cons {f : Field α} (hf : f.required = false) :
    readItems record ending (f :: fields) [] = readItems record ending fields [] := by
  cases ending with
  | none => simp [readItems, hf, Decoder.ended, bind, Except.bind]
  | some flaw => cases fields <;> rfl

end

/-! ## Records -/

section
variable {change : Json → Json → Prop} {f : Field α}

/-- Records compare, if the fields do which are changed in them. -/
theorem compares_field {c : Comparison} (hplain : fmt.IsPlain names)
    (hf : fmt.field? name = some f) (h : Decoder.Compares f.read c change) :
    Decoder.Compares fmt.decode c (Json.FieldChange names name change) := by
  intro value value' hchange
  cases hchange with
  | member hchange =>
    simp only [decode, readMembers_append]
    refine c.bind (c.bind_same fun r _ => ?_) _
    rw [readMembers_field hf, readMembers_field hf]
    split
    · exact c.error _
    · exact c.bind (h _ _ hchange) _
  | item hplace hchange =>
    obtain ⟨front, fields, hfields, hlength⟩ := hplain.exists_split hf hplace
    simp only [decode, hfields, readItems_append hlength]
    exact c.bind_same fun record _ => c.bind (h _ _ hchange) _

/-- **A lenient field which is `null` may be left out.** -/
theorem same_of_null (hplain : fmt.IsPlain names) (hind : fmt.IsIndependent)
    (h : ∀ name ∈ which, ∃ f, fmt.field? name = some f ∧ f.IsLenient fmt.start) :
    Decoder.Compares fmt.decode .same (Json.NullLeftOut names which) := by
  intro value value' hchange
  cases hchange with
  | @member before after ending name hname honly =>
    obtain ⟨f, hf, hfree, put, hread, hput⟩ := h name hname
    obtain rfl := hplain.name_eq hf
    obtain ⟨hbefore, hafter⟩ := List.forall_mem_append.1 honly
    refine decode_object_eq ?_ ending
    rw [readMembers_append, readMembers_append]
    cases hfront : fmt.readMembers [] fmt.start before with
    | error cause => rfl
    | ok r =>
      have hnew : f.name ∉ r.1 := not_mem_seen hplain hbefore hfront
      have hsame : put r.2 = r.2 :=
        put_null_eq hplain hind (mem_of_field? hf) hbefore hread hput hfront
      simp only [bind, Except.bind, readMembers_field hf, List.contains_iff_mem, hnew, if_false,
        hread, hsame]
      refine readMembers_seen hplain hf hfree hafter fun n hn => ?_
      rw [List.mem_cons, or_iff_right hn]
  | @item items ending name hname hplace =>
    obtain ⟨f, hf, hfree, put, hread, hput⟩ := h name hname
    obtain ⟨front, fields, hfields, hlength⟩ := hplain.exists_split hf hplace
    have hcomm : ∀ g ∈ front, Commute g f := by
      rw [IsIndependent, hfields, List.pairwise_append] at hind
      exact fun g hg => hind.2.2 g hg f (by simp)
    simp only [decode, hfields, readItems_append hlength, readItems_append_nil hlength]
    cases hfront : readFront fmt.start front items with
    | error cause => rfl
    | ok record =>
      have hsame : put record = record := readFront_fixed hcomm hread hput hfront
      calc readItems record ending (f :: fields) [.null]
        _ = readItems record ending fields [] := by
          simp only [readItems, hread, hsame, bind, Except.bind]
        _ = readItems record ending (f :: fields) [] := (readItems_nil_cons hfree).symm

/-- **A strict field which is `null` fails the whole record.** -/
theorem refused_of_null (hplain : fmt.IsPlain names)
    (h : ∀ name ∈ which, ∃ f, fmt.field? name = some f ∧ f.IsStrict) :
    Decoder.Compares fmt.decode .refused (Json.NullLeftOut names which) := by
  intro value value' hchange
  cases hchange with
  | @member before after ending name hname honly =>
    obtain ⟨f, hf, hread⟩ := h name hname
    obtain rfl := hplain.name_eq hf
    have hbefore := (List.forall_mem_append.1 honly).1
    simp only [decode, readMembers_append]
    refine Comparison.refused.bind (Comparison.refused.bind_same fun r hfront => ?_) _
    have hnew : f.name ∉ r.1 := not_mem_seen hplain hbefore hfront
    rw [readMembers_field hf, hread]
    simp only [List.contains_iff_mem, hnew, if_false]
    exact ⟨_, rfl, fun _ => rfl⟩
  | @item items ending name hname hplace =>
    obtain ⟨f, hf, hread⟩ := h name hname
    obtain ⟨front, fields, hfields, hlength⟩ := hplain.exists_split hf hplace
    simp only [decode, hfields, readItems_append hlength, readItems_append_nil hlength]
    refine Comparison.refused.bind_same fun record _ => ?_
    rw [readItems, hread]
    exact ⟨_, rfl, fun _ => rfl⟩

end

end Format

end TailnetTargets
