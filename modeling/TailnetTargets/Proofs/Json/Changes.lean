/-
  Changes of a document under which a view of what is read from it stays the same.

  * `Except.Alike`: two results which are both errors, or which look the same through a view;
  * `Decoder.Keeps`: a change of values under which the results of a decoder are alike.  So they
    are after any number of changes (`Keeps.eqvGen`);
  * `Json.RecordChange`: a change of a record: the order of its members, a member more which is no
    field, or a change of the value of one field;
  * `Format.keeps`: **a record is kept, if each of its fields is**;
  * `Json.MapChange`: a change of a map: the order of its members, or a change of one value;
  * `Decoder.Keeps.keyMap`: **a map is kept, if its values are**.
-/
import Mathlib.Logic.Relation
import TailnetTargets.Proofs.Json.Fields
import TailnetTargets.Proofs.Target.Labels

namespace TailnetTargets

namespace Json

/-- A change of a record with fields of these names, where `change` says how the value of a field
    may be changed. -/
inductive RecordChange (names : List String) (change : String → Json → Json → Prop) :
    Json → Json → Prop
  /-- members in another order -/
  | order {members members' : List (Option String × Json)} {ending : Option Flaw}
      (h : members.Perm members') :
      RecordChange names change (.object members ending) (.object members' ending)
  /-- a member more which is no field -/
  | other {members : List (Option String × Json)} {ending : Option Flaw} {key : String}
      {value : Json} (hkey : key ∉ names) (hvalue : value.IsWhole) :
      RecordChange names change (.object members ending)
        (.object ((some key, value) :: members) ending)
  /-- the value of a member -/
  | member {members : List (Option String × Json)} {ending : Option Flaw} {key : String}
      {value value' : Json} (hkey : key ∈ names) (h : change key value value') :
      RecordChange names change (.object ((some key, value) :: members) ending)
        (.object ((some key, value') :: members) ending)
  /-- the value of an item -/
  | item {before after : List Json} {ending : Option Flaw} {name : String} {value value' : Json}
      (hname : names[before.length]? = some name) (h : change name value value') :
      RecordChange names change (.array (before ++ value :: after) ending)
        (.array (before ++ value' :: after) ending)

/-- A change of a map with different keys, where `change` says how a value may be changed. -/
inductive MapChange (change : Json → Json → Prop) : Json → Json → Prop
  /-- members in another order -/
  | order {members members' : List (Option String × Json)} {ending : Option Flaw}
      (hkeys : (members.map (·.1)).Nodup) (h : members.Perm members') :
      MapChange change (.object members ending) (.object members' ending)
  /-- the value of a member -/
  | value {before after : List (Option String × Json)} {ending : Option Flaw}
      {key : Option String} {value value' : Json} (h : change value value') :
      MapChange change (.object (before ++ (key, value) :: after) ending)
        (.object (before ++ (key, value') :: after) ending)

theorem RecordChange.null_iff {names : List String} {change : String → Json → Json → Prop}
    {value value' : Json} (h : RecordChange names change value value') :
    value = .null ↔ value' = .null := by
  cases h <;> simp

theorem MapChange.null_iff {change : Json → Json → Prop} {value value' : Json}
    (h : MapChange change value value') : value = .null ↔ value' = .null := by
  cases h <;> simp

end Json

/-! ## Results -/

/-- Two results which look alike: both are failures, or they are values with the same view. -/
inductive Except.Alike {ε α β : Type} (view : α → β) : Except ε α → Except ε α → Prop
  | ok {a a' : α} (h : view a = view a') : Alike view (.ok a) (.ok a')
  | error (e e' : ε) : Alike view (.error e) (.error e')

namespace Except.Alike

variable {ε α β γ δ : Type} {view : α → β} {x y : Except ε α}

theorem refl (view : α → β) (x : Except ε α) : Alike view x x := by
  cases x with
  | error e => exact .error e e
  | ok a => exact .ok rfl

theorem symm (h : Alike view x y) : Alike view y x := by
  cases h with
  | error e e' => exact .error e' e
  | ok h => exact .ok h.symm

theorem trans {z : Except ε α} (h : Alike view x y) (h' : Alike view y z) : Alike view x z := by
  cases h with
  | error e _ =>
    cases h' with
    | error _ e' => exact .error e e'
  | ok h =>
    cases h' with
    | ok h' => exact .ok (h.trans h')

/-- Results which look alike do so in a view which shows less. -/
theorem coarser {view' : α → γ} (h : Alike view x y)
    (hview : ∀ a a', view a = view a' → view' a = view' a') : Alike view' x y := by
  cases h with
  | error e e' => exact .error e e'
  | ok h => exact .ok (hview _ _ h)

theorem map {f g : α → γ} {view' : γ → δ} (h : Alike view x y)
    (hfg : ∀ a a', view a = view a' → view' (f a) = view' (g a')) :
    Alike view' (x.map f) (y.map g) := by
  cases h with
  | error e e' => exact .error e e'
  | ok h => exact .ok (hfg _ _ h)

/-- What goes on from results which look alike looks alike, if only their view counts. -/
theorem bind {f g : α → Except ε γ} {view' : γ → δ} (h : Alike view x y)
    (hfg : ∀ a a', view a = view a' → Alike view' (f a) (g a')) :
    Alike view' (x >>= f) (y >>= g) := by
  cases h with
  | error e e' => exact .error e e'
  | ok h => exact hfg _ _ h

theorem bind_same {f g : α → Except ε γ} {view' : γ → δ}
    (hfg : ∀ a, x = .ok a → Alike view' (f a) (g a)) : Alike view' (x >>= f) (x >>= g) := by
  cases x with
  | error e => exact .error e e
  | ok a => exact hfg a rfl

end Except.Alike

/-- Results look alike iff the same is seen of them. -/
theorem Except.alike_iff {ε α β : Type} {view : α → β} {x y : Except ε α} :
    Alike view x y ↔
      ∀ b, (∃ a, x = .ok a ∧ view a = b) ↔ ∃ a, y = .ok a ∧ view a = b := by
  constructor
  · intro h b
    cases h with
    | error e e' => simp
    | ok h => simp [h]
  · intro h
    cases x with
    | ok a =>
      obtain ⟨a', rfl, ha'⟩ := (h (view a)).1 ⟨a, rfl, rfl⟩
      exact .ok ha'.symm
    | error e =>
      cases y with
      | ok a' =>
        obtain ⟨_, heq, -⟩ := (h (view a')).2 ⟨a', rfl, rfl⟩
        cases heq
      | error e' => exact .error e e'

/-- After a change a decoder fails or succeeds as before, and its result looks the same. -/
def Decoder.Keeps {α β : Type} (decoder : Decoder α) (change : Json → Json → Prop) (view : α → β) :
    Prop :=
  ∀ value value', change value value' → Except.Alike view (decoder value) (decoder value')

namespace Decoder

variable {α β γ : Type} {decoder : Decoder α} {change : Json → Json → Prop} {view : α → β}

theorem keeps_eq (decoder : Decoder α) (view : α → β) : decoder.Keeps Eq view := by
  rintro value _ rfl
  exact .refl view _

namespace Keeps

theorem coarser (h : decoder.Keeps change view) {view' : α → γ}
    (hview : ∀ a a', view a = view a' → view' a = view' a') : decoder.Keeps change view' :=
  fun value value' hchange => (h value value' hchange).coarser hview

theorem eqvGen (h : decoder.Keeps change view) : decoder.Keeps (Relation.EqvGen change) view := by
  intro value value' hchange
  induction hchange with
  | rel _ _ hchange => exact h _ _ hchange
  | refl _ => exact .refl view _
  | symm _ _ _ ih => exact ih.symm
  | trans _ _ _ _ _ ih ih' => exact ih.trans ih'

/-- A value or `null` is kept, if the value is and no change makes or takes `null`. -/
theorem nullable (h : decoder.Keeps change view)
    (hnull : ∀ {value value'}, change value value' → (value = .null ↔ value' = .null)) :
    (Decoder.nullable decoder).Keeps change (Option.map view) := by
  intro value value' hchange
  by_cases hv : value = .null
  · rw [hv, (hnull hchange).1 hv]
    exact .refl _ _
  · have hv' : value' ≠ .null := fun heq => hv ((hnull hchange).2 heq)
    rw [nullable_of_ne hv, nullable_of_ne hv']
    exact (h value value' hchange).map fun a a' hview => congrArg some hview

end Keeps

end Decoder

/-! ## Records -/

/-- What a field does to a view of the record depends on that view alone, and changes of its value
    do not show in it. -/
structure Field.Respects {α β : Type} (f : Field α) (change : Json → Json → Prop) (view : α → β) :
    Prop where
  congr : ∀ value put, f.read value = .ok put →
    ∀ record record', view record = view record' → view (put record) = view (put record')
  keeps : Decoder.Keeps f.read change fun put record => view (put record)

/-- A field respects the changes of its value, if the record shows no more than a view of it. -/
theorem Field.respects {α β γ δ : Type} {decoder : Decoder γ} {change : Json → Json → Prop}
    {shown : γ → δ} (h : decoder.Keeps change shown) {name : String} {put : γ → α → α}
    {view : α → β} (update : δ → β → β)
    (hput : ∀ c record, view (put c record) = update (shown c) (view record)) :
    (decoder.field name put).Respects change view where
  congr value p hp record record' hview := by
    obtain ⟨c, -, rfl⟩ := Except.map_eq_ok hp
    rw [hput, hput, hview]
  keeps value value' hchange :=
    (h value value' hchange).map fun c c' hshown => by simp only [hput, hshown]

namespace Format

variable {α β : Type} {fmt : Format α} {names : List String}
  {change : String → Json → Json → Prop} {view : α → β}

/-- Records with the same view have the same view after members were read into them. -/
theorem readMembers_congr (h : ∀ f ∈ fmt.fields, f.Respects (change f.name) view)
    {seen : List String} {members : List (Option String × Json)} {record record' : α}
    (hview : view record = view record') :
    Except.Alike (Prod.map id view) (fmt.readMembers seen record members)
      (fmt.readMembers seen record' members) := by
  induction members generalizing seen record record' with
  | nil => exact .ok (congrArg (seen, ·) hview)
  | cons m members ih =>
    rw [readMembers, readMembers]
    refine .bind_same fun key _ => ?_
    split
    · next f hf =>
      have hf' := h f (mem_of_field? hf)
      split
      · exact .refl _ _
      · exact .bind_same fun put hread => ih (hf'.congr m.2 put hread _ _ hview)
    · split
      · exact .refl _ _
      · exact ih hview

/-- Records with the same view have the same view after items were read into them. -/
theorem readItems_congr {fields : List (Field α)}
    (h : ∀ f ∈ fields, f.Respects (change f.name) view) {items : List Json} {ending : Option Flaw}
    {record record' : α} (hview : view record = view record') :
    Except.Alike view (readItems record ending fields items)
      (readItems record' ending fields items) := by
  induction fields generalizing items record record' with
  | nil =>
    cases items with
    | nil => exact .bind_same fun _ _ => .ok hview
    | cons => exact .refl _ _
  | cons f fields ih =>
    obtain ⟨hf, hfields⟩ := List.forall_mem_cons.1 h
    cases items with
    | nil =>
      refine .bind_same fun _ _ => ?_
      split
      · exact .refl _ _
      · exact ih hfields hview
    | cons value items =>
      exact .bind_same fun put hread => ih hfields (hf.congr value put hread _ _ hview)

/-- A change of the value of one item. -/
theorem readItems_changed {fields : List (Field α)}
    (h : ∀ f ∈ fields, f.Respects (change f.name) view) {before after : List Json}
    {ending : Option Flaw} {name : String} {value value' : Json} {record : α}
    (hname : (fields.map (·.name))[before.length]? = some name)
    (hchange : change name value value') :
    Except.Alike view (readItems record ending fields (before ++ value :: after))
      (readItems record ending fields (before ++ value' :: after)) := by
  -- along the fields and the items in front of the changed one
  induction fields generalizing before record with
  | nil => cases hname
  | cons f fields ih =>
    obtain ⟨hf, hfields⟩ := List.forall_mem_cons.1 h
    cases before with
    | nil =>
      obtain rfl : f.name = name := by simpa using hname
      exact (hf.keeps value value' hchange).bind fun put put' hput =>
        readItems_congr hfields (congrFun hput record)
    | cons u before => exact .bind_same fun put _ => ih hfields (by simpa using hname)

/-- Members which make of a record what looks alike are read alike. -/
theorem decode_object_congr {members members' : List (Option String × Json)}
    {ending : Option Flaw}
    (h : Except.Alike (Prod.map id view) (fmt.readMembers [] fmt.start members)
      (fmt.readMembers [] fmt.start members')) :
    Except.Alike view (fmt.decode (.object members ending))
      (fmt.decode (.object members' ending)) := by
  refine h.bind fun ⟨seen, record⟩ ⟨seen', record'⟩ hsame => .bind_same fun _ _ => ?_
  obtain ⟨rfl, hview⟩ : seen = seen' ∧ view record = view record' := Prod.mk.inj hsame
  split
  · exact .error _ _
  · exact .ok hview

/-- Members are read in any order. -/
theorem decode_perm_iff (hind : fmt.IsIndependent) {members members' : List (Option String × Json)}
    (hperm : members.Perm members') {ending : Option Flaw} {record : α} :
    fmt.decode (.object members ending) = .ok record ↔
      fmt.decode (.object members' ending) = .ok record := by
  have hread : ∀ {ms ms' : List (Option String × Json)}, ms.Perm ms' →
      fmt.decode (.object ms ending) = .ok record →
      fmt.decode (.object ms' ending) = .ok record := by
    intro ms ms' hperm h
    obtain ⟨rfl, read, change, hmakes, hrequired, rfl⟩ := decode_object.1 h
    obtain ⟨read', hread, hmakes'⟩ := hmakes.perm hind hperm
    exact decode_object.2 ⟨rfl, read', change, hmakes',
      fun f hf hreq => hread.mem_iff.1 (hrequired f hf hreq), rfl⟩
  exact ⟨hread hperm, hread hperm.symm⟩

/-- **A record is kept, if each of its fields is.** -/
theorem keeps (hplain : fmt.IsPlain names) (hind : fmt.IsIndependent)
    (h : ∀ f ∈ fmt.fields, f.Respects (change f.name) view) :
    Decoder.Keeps fmt.decode (Json.RecordChange names change) view := by
  intro value value' hchange
  cases hchange with
  | order hperm =>
    refine Except.alike_iff.2 fun b => ?_
    simp only [decode_perm_iff hind hperm]
  | @other members ending key value hkey hvalue =>
    have hskip : fmt.readMembers [] fmt.start ((some key, value) :: members) =
        fmt.readMembers [] fmt.start members := by
      simp [readMembers, Decoder.key, hplain.field?_eq_none.2 hkey, hvalue.skip, bind, Except.bind]
    exact decode_object_congr (hskip ▸ .refl _ _)
  | @member members ending key value value' hkey hchange =>
    refine decode_object_congr (.bind_same fun k hk => ?_)
    obtain rfl : key = k := Except.ok.inj hk
    cases hf : fmt.field? key with
    | none => exact absurd hkey (hplain.field?_eq_none.1 hf)
    | some f =>
      obtain rfl := hplain.name_eq hf
      have hf' := (h f (mem_of_field? hf)).keeps value value' hchange
      exact hf'.bind fun put put' hput => readMembers_congr h (congrFun hput fmt.start)
  | item hname hchange =>
    rw [← hplain.names_eq] at hname
    exact readItems_changed h hname hchange

end Format

/-! ## Maps -/

namespace KeyMap

variable {α β : Type}

/-- Values of different keys are set in any order. -/
theorem insert_comm {key key' : String} (hne : key ≠ key') (m : KeyMap α) (a b : α) :
    (m.insert key a).insert key' b = (m.insert key' b).insert key a := by
  refine ext_get? fun k => ?_
  rw [get?_insert, get?_insert, get?_insert, get?_insert]
  by_cases hk : k = key
  · rw [if_neg fun hk' => hne (hk.symm.trans hk'), if_pos hk, if_pos hk]
  · rw [if_neg hk, if_neg hk]

theorem map_insertEntry (view : α → β) (key : String) (value : α) (entries : List (String × α)) :
    (insertEntry key value entries).map (Prod.map id view) =
      insertEntry key (view value) (entries.map (Prod.map id view)) := by
  induction entries with
  | nil => rfl
  | cons e rest ih =>
    simp only [insertEntry, List.map_cons, Prod.map_fst, id]
    split
    · rfl
    · split
      · rw [List.map_cons, ih]
      · rfl

end KeyMap

namespace Decoder

variable {α β : Type} {decoder : Decoder α} {change : Json → Json → Prop} {view : α → β}

/-- The entries of a map, where only a view of the values counts. -/
def viewEntries (view : α → β) (m : KeyMap α) : List (String × β) :=
  m.entries.map (Prod.map id view)

theorem viewEntries_insert {m m' : KeyMap α} (h : viewEntries view m = viewEntries view m')
    {a a' : α} (ha : view a = view a') (key : String) :
    viewEntries view (m.insert key a) = viewEntries view (m'.insert key a') := by
  rw [viewEntries, viewEntries] at h
  rw [viewEntries, viewEntries, KeyMap.insert, KeyMap.insert, KeyMap.map_insertEntry,
    KeyMap.map_insertEntry, h, ha]

/-- Maps with the same view have the same view after members were read into them. -/
theorem entries_congr {m m' : KeyMap α} (h : viewEntries view m = viewEntries view m')
    (members : List (Option String × Json)) :
    Except.Alike (viewEntries view) (entries decoder m members) (entries decoder m' members) := by
  induction members generalizing m m' with
  | nil => exact .ok h
  | cons e members ih =>
    exact .bind_same fun key _ => .bind_same fun a _ => ih (viewEntries_insert h rfl key)

/-- A change of one value. -/
theorem Keeps.entries (h : decoder.Keeps change view) {value value' : Json}
    (hchange : change value value') (m : KeyMap α) (before after : List (Option String × Json))
    (key : Option String) :
    Except.Alike (viewEntries view)
      (Decoder.entries decoder m (before ++ (key, value) :: after))
      (Decoder.entries decoder m (before ++ (key, value') :: after)) := by
  induction before generalizing m with
  | nil =>
    exact .bind_same fun key _ => (h value value' hchange).bind fun a a' hview =>
      entries_congr (viewEntries_insert rfl hview key) after
  | cons e before ih => exact .bind_same fun k _ => .bind_same fun a _ => ih (m.insert k a)

/-- Members with different keys are read in any order. -/
theorem entries_perm {members members' : List (Option String × Json)}
    (hperm : members.Perm members') (hkeys : (members.map (·.1)).Nodup) {m n : KeyMap α}
    (h : entries decoder m members = .ok n) : entries decoder m members' = .ok n := by
  induction hperm generalizing m with
  | nil => exact h
  | cons e _ ih =>
    obtain ⟨key, a, hkey, ha, h⟩ := entries_cons_eq_ok.1 h
    exact entries_cons_eq_ok.2 ⟨key, a, hkey, ha, ih (List.nodup_cons.1 hkeys).2 h⟩
  | swap e e' rest =>
    obtain ⟨key', a', hkey', ha', h⟩ := entries_cons_eq_ok.1 h
    obtain ⟨key, a, hkey, ha, h⟩ := entries_cons_eq_ok.1 h
    have hne : key' ≠ key := by
      rintro rfl
      simp [hkey, hkey'] at hkeys
    rw [KeyMap.insert_comm hne] at h
    exact entries_cons_eq_ok.2 ⟨key, a, hkey, ha, entries_cons_eq_ok.2 ⟨key', a', hkey', ha', h⟩⟩
  | trans hperm _ ih ih' =>
    exact ih' ((hperm.map _).nodup_iff.1 hkeys) (ih hkeys h)

theorem keyMap_congr {members members' : List (Option String × Json)} {ending : Option Flaw}
    (h : Except.Alike (viewEntries view) (entries decoder KeyMap.empty members)
      (entries decoder KeyMap.empty members')) :
    Except.Alike (viewEntries view) (keyMap decoder (.object members ending))
      (keyMap decoder (.object members' ending)) :=
  h.bind fun _ _ hview => .bind_same fun _ _ => .ok hview

/-- **A map is kept, if its values are.** -/
theorem Keeps.keyMap (h : decoder.Keeps change view) :
    (Decoder.keyMap decoder).Keeps (Json.MapChange change) (viewEntries view) := by
  intro value value' hchange
  cases hchange with
  | order hkeys hperm =>
    have hkeys' := (hperm.map (·.1)).nodup_iff.1 hkeys
    refine keyMap_congr (Except.alike_iff.2 fun es => ⟨?_, ?_⟩)
    · exact fun ⟨m, hm, hes⟩ => ⟨m, entries_perm hperm hkeys hm, hes⟩
    · exact fun ⟨m, hm, hes⟩ => ⟨m, entries_perm hperm.symm hkeys' hm, hes⟩
  | @value before after ending key value value' hchange =>
    exact keyMap_congr (h.entries hchange KeyMap.empty before after key)

end Decoder

end TailnetTargets
