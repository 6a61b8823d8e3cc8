/-
  Changes of an object which change nothing of the device that is read from it.

  * `TagSet.ofList_congr`: a set of tags depends on which tags it is made of, and neither on their
    order nor on how often they occur;
  * `Device.fieldName?`: the field which a key names, where two keys name `online`;
  * `Device.Rewording`: one change of the members of an object: their order, a member which is no
    field, a field which is `null`, the name of `online`, the order and the repetition of tags;
  * `Device.decoder_rewording`: what is read of an object stays what it was;
  * `Device.decodes_reworded`: so it does after any number of changes, and an object in which two
    members name one field is never read.
-/
import Mathlib.Data.List.Forall2
import Mathlib.Data.List.Sort
import Mathlib.Data.Set.List
import Mathlib.Logic.Relation
import TailnetTargets.Device.Json
import TailnetTargets.Proofs.Json.Members

namespace TailnetTargets

/-! ## Sets of tags -/

namespace TagSet

theorem ext_mem {s s' : TagSet} (h : ∀ tag, tag ∈ s.toList ↔ tag ∈ s'.toList) : s = s' := by
  have heq : s.toList = s'.toList := s.sorted.eq_of_mem_iff s'.sorted h
  cases s; cases s'; cases heq; rfl

theorem ofList_congr {tags tags' : List String} (h : ∀ tag, tag ∈ tags ↔ tag ∈ tags') :
    ofList tags = ofList tags' := ext_mem fun tag => by rw [mem_ofList, mem_ofList, h]

end TagSet

namespace Decoder

theorem string_eq_ok {v : Json} {s : String} : string v = .ok s ↔ v = .string s := by
  constructor
  · intro h
    unfold string at h
    split at h <;> cases h
    rfl
  · rintro rfl
    rfl

theorem list_string_eq_ok {items : List Json} {texts : List String} :
    list string (.list items) = .ok texts ↔ items = texts.map .string := by
  simp only [list_eq_ok, string_eq_ok]
  rw [← List.forall₂_eq_eq_eq, List.forall₂_map_right_iff]

end Decoder

namespace Device

/-! ## Fields -/

/-- The names of the fields. -/
def fieldNames : List String :=
  ["addresses", "api", "authorized", "clientVersion", "hostname", "id", "name", "online", "os",
    "tags", "tailnet"]

/-- The field which a key names: `connectedToControl` is a second name of `online`. -/
def fieldName? (key : String) : Option String :=
  if key = "connectedToControl" then some "online"
  else if key ∈ fieldNames then some key
  else none

theorem fieldName?_eq (key : String) : fieldName? key = (format.field? key).map (·.name) := by
  by_cases halias : key = "connectedToControl"
  · subst halias
    rfl
  · by_cases hkey : key ∈ fieldNames
    · simp only [fieldNames, List.mem_cons, List.not_mem_nil, or_false] at hkey
      rcases hkey with rfl | rfl | rfl | rfl | rfl | rfl | rfl | rfl | rfl | rfl | rfl <;> rfl
    · have hnone : format.field? key = none := by
        simp_all [Format.field?, format, Decoder.field, fieldNames, eq_comm]
      simp [hnone, fieldName?, halias, hkey]

theorem field?_eq_none {key : String} (h : fieldName? key = none) : format.field? key = none := by
  simpa [fieldName?_eq] using h

theorem exists_field? {key name : String} (h : fieldName? key = some name) :
    ∃ f, format.field? key = some f ∧ f.name = name := by
  simpa [fieldName?_eq] using h

theorem format_isIndependent : format.IsIndependent := by
  unfold Format.IsIndependent format
  repeat' refine List.pairwise_cons.2 ⟨?_, ?_⟩
  all_goals try exact List.Pairwise.nil
  all_goals
    simp only [List.forall_mem_cons, List.not_mem_nil, false_implies, implies_true, and_true]
    and_intros
    all_goals exact Format.commute_of_put rfl rfl fun _ _ _ => rfl

/-- A field which is `null` has its default. -/
theorem read_null {f : Field Device} (hf : f ∈ format.fields) :
    ∃ put, f.read .null = .ok put ∧ put {} = {} := by
  simp only [format, List.mem_cons, List.not_mem_nil, or_false] at hf
  rcases hf with rfl | rfl | rfl | rfl | rfl | rfl | rfl | rfl | rfl | rfl | rfl <;>
    exact ⟨_, rfl, rfl⟩

theorem decoder_object {members : List (Option String × Json)} {d : Device} :
    decoder (.object members none) = .ok d ↔
      ∃ names change, format.Makes members names change ∧ d = change {} := by
  have hrequired : ∀ f ∈ format.fields, f.required = false := by
    simp [format, Decoder.field]
  rw [decoder, Format.decode_object]
  constructor
  · rintro ⟨-, names, change, hmakes, -, hd⟩
    exact ⟨names, change, hmakes, hd⟩
  · rintro ⟨names, change, hmakes, hd⟩
    exact ⟨rfl, names, change, hmakes, fun f hf hreq => by simp [hrequired f hf] at hreq, hd⟩

/-- Tags in another order, or some of them repeated. -/
theorem tagsDecoder_congr {items items' : List Json} (h : ∀ v, v ∈ items ↔ v ∈ items')
    {tags : TagSet} (htags : tagsDecoder (.list items) = .ok tags) :
    tagsDecoder (.list items') = .ok tags := by
  obtain ⟨texts, htexts, rfl⟩ := Except.map_eq_ok htags
  obtain rfl := Decoder.list_string_eq_ok.1 htexts
  obtain ⟨texts', rfl⟩ : items' ∈ Set.range (List.map Json.string) := by
    rw [Set.range_list_map]
    intro v hv
    obtain ⟨text, -, heq⟩ := List.mem_map.1 ((h v).2 hv)
    exact ⟨text, heq⟩
  have hinj : Function.Injective Json.string := fun s t heq => by cases heq; rfl
  have hsame : ∀ text, text ∈ texts' ↔ text ∈ texts := fun text => by
    rw [← List.mem_map_of_injective hinj, ← h, List.mem_map_of_injective hinj]
  rw [tagsDecoder, Decoder.list_string_eq_ok.2 rfl]
  exact congrArg Except.ok (TagSet.ofList_congr hsame)

theorem read_tags {items items' : List Json} (h : ∀ v, v ∈ items ↔ v ∈ items')
    {f : Field Device} (hf : format.field? "tags" = some f) {put : Device → Device}
    (hread : f.read (.list items) = .ok put) : f.read (.list items') = .ok put := by
  obtain rfl := Option.some.inj hf
  obtain ⟨tags, htags, rfl⟩ := Except.map_eq_ok hread
  exact congrArg (Except.map _) (tagsDecoder_congr h htags)

/-! ## Changes -/

/-- A change of the members of an object which changes nothing of the device that is read from it. -/
inductive Rewording : List (Option String × Json) → List (Option String × Json) → Prop
  /-- members in another order -/
  | order {members members' : List (Option String × Json)} (h : members.Perm members') :
      Rewording members members'
  /-- a member more which is no field -/
  | other {members : List (Option String × Json)} {key : String} {value : Json}
      (hkey : fieldName? key = none) (hvalue : value.IsWhole) :
      Rewording members ((some key, value) :: members)
  /-- a field more which is `null` -/
  | null {members : List (Option String × Json)} {key name : String}
      (hkey : fieldName? key = some name)
      (habsent : ∀ key' value, (some key', value) ∈ members → fieldName? key' ≠ some name) :
      Rewording members ((some key, .null) :: members)
  /-- the second name of `online` -/
  | online {members : List (Option String × Json)} {value : Json} :
      Rewording ((some "online", value) :: members) ((some "connectedToControl", value) :: members)
  /-- tags in another order, or repeated -/
  | tags {members : List (Option String × Json)} {items items' : List Json}
      (h : ∀ v, v ∈ items ↔ v ∈ items') :
      Rewording ((some "tags", .list items) :: members) ((some "tags", .list items') :: members)

section
variable {members members' : List (Option String × Json)} {names : List String}
  {change : Device → Device}

theorem makes_tags {items items' : List Json} (h : ∀ v, v ∈ items ↔ v ∈ items')
    (hmakes : format.Makes ((some "tags", .list items) :: members) names change) :
    format.Makes ((some "tags", .list items') :: members) names change := by
  cases hmakes with
  | field hf hnew hread h' => exact .field hf hnew (read_tags h hf hread) h'
  | other hf _ _ => cases hf

theorem makes_renamed {key key' : String} {value : Json}
    (hkey : format.field? key = format.field? key')
    (hmakes : format.Makes ((some key, value) :: members) names change) :
    format.Makes ((some key', value) :: members) names change := by
  cases hmakes with
  | field hf hnew hread h => exact .field (hkey ▸ hf) hnew hread h
  | other hf hskip h => exact .other (hkey ▸ hf) hskip h

/-- Members which make as much of a device as others are read as the same device. -/
theorem decoder_of_makes
    (h : ∀ names change, format.Makes members names change →
      ∃ names' change', format.Makes members' names' change' ∧ change' {} = change {})
    {d : Device} (hd : decoder (.object members none) = .ok d) :
    decoder (.object members' none) = .ok d := by
  obtain ⟨names, change, hmakes, rfl⟩ := decoder_object.1 hd
  obtain ⟨names', change', hmakes', heq⟩ := h names change hmakes
  exact decoder_object.2 ⟨names', change', hmakes', heq.symm⟩

/-- **What is read of an object stays what it was** after a change. -/
theorem decoder_rewording (h : Rewording members members') (d : Device) :
    decoder (.object members none) = .ok d ↔ decoder (.object members' none) = .ok d := by
  cases h with
  | order hperm =>
    have hordered : ∀ {ms ms' : List (Option String × Json)}, ms.Perm ms' →
        decoder (.object ms none) = .ok d → decoder (.object ms' none) = .ok d := by
      refine fun hperm => decoder_of_makes fun names change hmakes => ?_
      obtain ⟨names', -, hmakes'⟩ := hmakes.perm format_isIndependent hperm
      exact ⟨names', change, hmakes', rfl⟩
    exact ⟨hordered hperm, hordered hperm.symm⟩
  | other hkey hvalue =>
    have hnone := field?_eq_none hkey
    constructor
    · exact decoder_of_makes fun names change hmakes =>
        ⟨names, change, .other hnone hvalue.skip hmakes, rfl⟩
    · refine decoder_of_makes fun names change hmakes => ?_
      cases hmakes with
      | field hf _ _ _ => simp [hnone] at hf
      | other _ _ hmakes => exact ⟨names, change, hmakes, rfl⟩
  | null hkey habsent =>
    obtain ⟨f, hf, rfl⟩ := exists_field? hkey
    obtain ⟨put, hread, hput⟩ := read_null (Format.mem_of_field? hf)
    constructor
    · refine decoder_of_makes fun names change hmakes => ?_
      have hnew : f.name ∉ names := by
        intro hmem
        obtain ⟨key', value, g, hmember, hg, hname⟩ := hmakes.mem_names.1 hmem
        exact habsent key' value hmember (by rw [fieldName?_eq, hg, ← hname]; rfl)
      exact ⟨_, _, .field hf hnew hread hmakes, congrArg change hput⟩
    · refine decoder_of_makes fun names change hmakes => ?_
      cases hmakes with
      | field hf' _ hread' hmakes =>
        obtain rfl := Option.some.inj (hf.symm.trans hf')
        obtain rfl := Except.ok.inj (hread.symm.trans hread')
        exact ⟨_, _, hmakes, congrArg _ hput.symm⟩
      | other hnone _ _ => simp [hf] at hnone
  | online =>
    have hkey : format.field? "online" = format.field? "connectedToControl" := rfl
    exact ⟨decoder_of_makes fun _ _ hmakes => ⟨_, _, makes_renamed hkey hmakes, rfl⟩,
      decoder_of_makes fun _ _ hmakes => ⟨_, _, makes_renamed hkey.symm hmakes, rfl⟩⟩
  | tags h =>
    exact ⟨decoder_of_makes fun _ _ hmakes => ⟨_, _, makes_tags h hmakes, rfl⟩,
      decoder_of_makes fun _ _ hmakes => ⟨_, _, makes_tags (fun v => (h v).symm) hmakes, rfl⟩⟩

theorem decoder_reworded (h : Relation.EqvGen Rewording members members') (d : Device) :
    decoder (.object members none) = .ok d ↔ decoder (.object members' none) = .ok d := by
  induction h with
  | rel _ _ h => exact decoder_rewording h d
  | refl _ => exact Iff.rfl
  | symm _ _ _ ih => exact ih.symm
  | trans _ _ _ _ _ ih ih' => exact ih.trans ih'

/-- Whether two members name one field. -/
def NamesTwice (members : List (Option String × Json)) : Prop :=
  ∃ before middle after key key' value value' name,
    members = before ++ (some key, value) :: (middle ++ (some key', value') :: after) ∧
      fieldName? key = some name ∧ fieldName? key' = some name

theorem decoder_of_namesTwice (h : NamesTwice members) (ending : Option Flaw) (d : Device) :
    decoder (.object members ending) ≠ .ok d := by
  obtain ⟨before, middle, after, key, key', value, value', name, rfl, hkey, hkey'⟩ := h
  obtain ⟨f, hf, rfl⟩ := exists_field? hkey
  obtain ⟨g, hg, hname⟩ := exists_field? hkey'
  intro hd
  obtain ⟨-, names, change, hmakes, -⟩ := Format.decode_object.1 hd
  exact Format.not_makes_of_twice hf hg hname.symm hmakes

end

/-- **The same device is read of an object after any number of changes which carry no information**,
    and an object in which two members name one field is never read, whatever the members are. -/
theorem decodes_reworded :
    (∀ members members' : List (Option String × Json), Relation.EqvGen Rewording members members' →
      ∀ d : Device,
        (decoder (.object members none) = .ok d ↔ decoder (.object members' none) = .ok d) ∧
        ∀ bytes bytes' : List UInt8, Document.ofBytes bytes = ⟨.object members none, false⟩ →
          Document.ofBytes bytes' = ⟨.object members' none, false⟩ →
          (decoder.ofBytes bytes = .ok d ↔ decoder.ofBytes bytes' = .ok d)) ∧
    ∀ members : List (Option String × Json), NamesTwice members →
      ∀ (ending : Option Flaw) (d : Device), decoder (.object members ending) ≠ .ok d := by
  refine ⟨fun members members' h d => ⟨decoder_reworded h d, ?_⟩,
    fun _ h ending d => decoder_of_namesTwice h ending d⟩
  intro bytes bytes' hbytes hbytes'
  rw [decoder.ofBytes_eq hbytes, decoder.ofBytes_eq hbytes']
  exact decoder_reworded h d

/-- Tags repeated, the second name of `online`, a field which is `null`, and a member which is no
    field; and `online` under both of its names. -/
theorem decodes_reworded_everywhere :
    decoder (.record [("seen", .list [.number ['7'], .record [("id", .null)]]), ("os", .null),
        ("connectedToControl", .bool true),
        ("tags", .list [.string "a", .string "b", .string "a"]), ("id", .string "n1")]) =
      .ok { id := "n1", online := true, tags := TagSet.ofList ["b", "a"] } ∧
    ∀ d, decoder (.record [("connectedToControl", .null), ("id", .string "n1"), ("online", .null)])
      ≠ .ok d := by
  let id : Option String × Json := (some "id", .string "n1")
  let online : Option String × Json := (some "online", .bool true)
  let renamed : Option String × Json := (some "connectedToControl", .bool true)
  let tags : Option String × Json := (some "tags", .list [.string "b", .string "a"])
  let more : Option String × Json := (some "tags", .list [.string "a", .string "b", .string "a"])
  let os : Option String × Json := (some "os", .null)
  let seen : Option String × Json :=
    (some "seen", .list [.number ['7'], .record [("id", .null)]])
  have hwhole : (Json.list [.number ['7'], .record [("id", .null)]]).IsWhole := by
    refine .array fun v hv => ?_
    rcases List.mem_pair.1 hv with rfl | rfl
    · exact .number _
    · exact .object fun m hm => by rw [List.mem_singleton.1 hm]; exact .null
  have hos : ∀ key value, (some key, value) ∈ [renamed, more, id] → fieldName? key ≠ some "os" := by
    intro key value hmem
    have hkey : key = "connectedToControl" ∨ key = "tags" ∨ key = "id" := by
      simp only [renamed, more, id, List.mem_cons, Prod.mk.injEq, Option.some.injEq,
        List.not_mem_nil, or_false] at hmem
      exact hmem.imp And.left (Or.imp And.left And.left)
    rcases hkey with rfl | rfl | rfl <;> decide
  have htags : Rewording [tags, online, id] [more, online, id] := .tags fun v => by simp; tauto
  have hnull : Rewording [renamed, more, id] [os, renamed, more, id] := .null rfl hos
  have hchain : Relation.EqvGen Rewording [tags, online, id] [seen, os, renamed, more, id] :=
    .trans _ _ _ (.rel _ _ htags) <| .trans _ _ _ (.rel _ _ (.order (.swap online more [id]))) <|
    .trans _ _ _ (.rel _ _ .online) <| .trans _ _ _ (.rel _ _ hnull) <|
    .rel _ _ (.other rfl hwhole)
  exact ⟨((decodes_reworded.1 _ _ hchain _).1).1 rfl,
    decodes_reworded.2 _ ⟨[], [id], [], _, _, _, _, "online", rfl, rfl, rfl⟩ none⟩

end Device

end TailnetTargets
