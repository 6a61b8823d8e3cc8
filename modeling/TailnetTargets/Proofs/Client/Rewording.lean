/-
  Changes of a status which change nothing of the devices.

  * `Json.SameItems`: a list in another order, or with some of its items repeated;
  * `Peer.fieldChange`, `Status.fieldChange`: how the value of a field may be changed, where the
    changes of addresses and of tags are given;
  * `Status.Rewording`: any number of changes of a document: the order of members at any level,
    members which are no fields, and those changes of addresses and of tags;
  * `Status.devices_keeps`: the devices stay the same, if changed addresses and tags are read alike;
  * `Status.devices_reproducible`: **the devices are those which the document describes; they are
    the same for documents which differ in the order of members, in members which are no fields and
    in the order and repetition of tags; and a text which is no address fails the whole document**.
-/
import TailnetTargets.Proofs.Client.Status
import TailnetTargets.Proofs.Json.Changes

namespace TailnetTargets

/-! ## Changes -/

/-- A list in another order, or with some of its items repeated. -/
inductive Json.SameItems : Json → Json → Prop
  | intro {items items' : List Json} {ending : Option Flaw} (h : ∀ v, v ∈ items ↔ v ∈ items') :
      SameItems (.array items ending) (.array items' ending)

/-- How the value of a field of a peer may be changed. -/
def Peer.fieldChange (addresses tags : Json → Json → Prop) : String → Json → Json → Prop
  | "TailscaleIPs" => addresses
  | "Tags" => tags
  | _ => Eq

/-- A change of a peer. -/
def Peer.Change (addresses tags : Json → Json → Prop) : Json → Json → Prop :=
  Json.RecordChange Peer.fieldNames (Peer.fieldChange addresses tags)

/-- How the value of a field of a status may be changed. -/
def Status.fieldChange (addresses tags : Json → Json → Prop) : String → Json → Json → Prop
  | "TailscaleIPs" => addresses
  | "Self" => Peer.Change addresses tags
  | "Peer" => Json.MapChange (Peer.Change addresses tags)
  | "CurrentTailnet" => Json.RecordChange ["Name"] fun _ => Eq
  | _ => Eq

/-- Documents which changes of a status, at any level and in any number, make of each other. -/
def Status.Rewording (addresses tags : Json → Json → Prop) : Json → Json → Prop :=
  Relation.EqvGen (Json.RecordChange Status.fieldNames (Status.fieldChange addresses tags))

variable {addresses tags : Json → Json → Prop}

/-! ## Peers -/

namespace Peer

theorem format_isIndependent : format.IsIndependent := by
  unfold Format.IsIndependent format
  repeat' refine List.pairwise_cons.2 ⟨?_, ?_⟩
  all_goals try exact List.Pairwise.nil
  all_goals
    simp only [List.forall_mem_cons, List.not_mem_nil, false_implies, implies_true, and_true]
    and_intros
    all_goals exact Format.commute_of_put rfl rfl fun _ _ _ => rfl

/-- What the fields of a peer do to the device. -/
theorem format_respects (haddresses : addressesDecoder.nullable.Keeps addresses fun as => as)
    (htags : (Decoder.list Decoder.string).nullable.Keeps tags (Option.map TagSet.ofList)) :
    ∀ f ∈ format.fields, f.Respects (fieldChange addresses tags f.name) (toDevice "") := by
  simp only [format, List.forall_mem_cons, List.not_mem_nil, false_implies, implies_true, and_true]
  have hsame : ∀ {γ : Type} (d : Decoder γ), d.Keeps Eq fun v => v := fun d => Decoder.keeps_eq d _
  refine ⟨?_, ?_, ?_, ?_, ?_, ?_, ?_⟩
  · exact Field.respects (hsame _) (fun v d => { d with id := v }) fun _ _ => rfl
  · exact Field.respects (hsame _) (fun v d => { d with hostname := v }) fun _ _ => rfl
  · exact Field.respects (hsame _) (fun _ d => d) fun _ _ => rfl
  · exact Field.respects (hsame _) (fun v d => { d with os := v }) fun _ _ => rfl
  · exact Field.respects haddresses
      (fun as d => { d with addresses := (as.getD []).map Address.text }) fun _ _ => rfl
  · refine Field.respects htags (fun tags d => { d with tags := tags.getD ∅ }) fun tags _ => ?_
    cases tags <;> rfl
  · exact Field.respects (hsame _) (fun v d => { d with online := v.getD true }) fun _ _ => rfl

theorem decode_keeps (haddresses : addressesDecoder.nullable.Keeps addresses fun as => as)
    (htags : (Decoder.list Decoder.string).nullable.Keeps tags (Option.map TagSet.ofList)) :
    Decoder.Keeps format.decode (Change addresses tags) (toDevice "") :=
  Format.keeps format_isPlain format_isIndependent (format_respects haddresses htags)

end Peer

/-! ## The status -/

namespace Status

theorem format_isIndependent : format.IsIndependent := by
  unfold Format.IsIndependent format
  repeat' refine List.pairwise_cons.2 ⟨?_, ?_⟩
  all_goals try exact List.Pairwise.nil
  all_goals
    simp only [List.forall_mem_cons, List.not_mem_nil, false_implies, implies_true, and_true]
    and_intros
    all_goals exact Format.commute_of_put rfl rfl fun _ _ _ => rfl

theorem tailnetFormat_isIndependent : tailnetFormat.IsIndependent := List.pairwise_singleton _ _

/-- What counts of a status: the name of the tailnet, and the peers as devices. -/
def view (s : Status) : String × List (String × Device) :=
  (s.tailnet.getD "", Decoder.viewEntries (Peer.toDevice "") (s.peers.getD KeyMap.empty))

theorem tailnetFormat_keeps :
    Decoder.Keeps tailnetFormat.decode (Json.RecordChange ["Name"] fun _ => Eq)
      fun name => name := by
  refine Format.keeps tailnetFormat_isPlain tailnetFormat_isIndependent ?_
  simp only [tailnetFormat, List.forall_mem_cons, List.not_mem_nil, false_implies, implies_true,
    and_true]
  exact Field.respects (Decoder.keeps_eq _ id) (fun v _ => v) fun _ _ => rfl

/-- What the fields of a status do to what counts of it. -/
theorem format_respects (haddresses : addressesDecoder.nullable.Keeps addresses fun as => as)
    (htags : (Decoder.list Decoder.string).nullable.Keeps tags (Option.map TagSet.ofList)) :
    ∀ f ∈ format.fields, f.Respects (fieldChange addresses tags f.name) view := by
  have hpeer := Peer.decode_keeps haddresses htags
  simp only [format, List.forall_mem_cons, List.not_mem_nil, false_implies, implies_true, and_true]
  refine ⟨?_, ?_, ?_, ?_⟩
  · exact Field.respects haddresses (fun _ w => w) fun _ _ => rfl
  · exact Field.respects (hpeer.nullable Json.RecordChange.null_iff) (fun _ w => w) fun _ _ => rfl
  · refine Field.respects (hpeer.keyMap.nullable Json.MapChange.null_iff)
      (fun peers w => (w.1, peers.getD [])) fun peers _ => ?_
    cases peers <;> rfl
  · refine Field.respects (tailnetFormat_keeps.nullable Json.RecordChange.null_iff)
      (fun name w => (name.getD "", w.2)) fun name _ => ?_
    cases name <;> rfl

theorem devices_eq_view (s : Status) :
    s.devices = (view s).2.map fun e => { e.2 with tailnet := (view s).1 } := by
  rw [devices, peerList_eq, view, Decoder.viewEntries, List.map_map]
  rfl

/-- **The devices stay the same** after any number of changes, if changed addresses and tags are
    read alike. -/
theorem devices_keeps (haddresses : addressesDecoder.nullable.Keeps addresses fun as => as)
    (htags : (Decoder.list Decoder.string).nullable.Keeps tags (Option.map TagSet.ofList)) :
    decoder.Keeps (Rewording addresses tags) devices := by
  have hview : decoder.Keeps (Rewording addresses tags) view :=
    (Format.keeps format_isPlain format_isIndependent (format_respects haddresses htags)).eqvGen
  exact hview.coarser fun s s' hs => by rw [devices_eq_view, devices_eq_view, hs]

end Status

/-! ## Tags -/

/-- Tags in another order, or repeated, make the same set. -/
theorem Decoder.tags_keep :
    (Decoder.list Decoder.string).nullable.Keeps Json.SameItems (Option.map TagSet.ofList) := by
  refine Decoder.Keeps.nullable ?_ fun h => by cases h; simp
  rintro _ _ @⟨items, items', ending, h⟩
  cases ending with
  | none =>
    have hset : ∀ v tags, (∃ texts, Decoder.list Decoder.string v = .ok texts ∧
        TagSet.ofList texts = tags) ↔ Device.tagsDecoder v = .ok tags := by
      intro v tags
      rw [Device.tagsDecoder]
      cases Decoder.list Decoder.string v <;> simp [Except.map]
    refine Except.alike_iff.2 fun tags => ?_
    rw [hset, hset]
    exact ⟨Device.tagsDecoder_congr h, Device.tagsDecoder_congr fun v => (h v).symm⟩
  | some flaw =>
    have hfail : ∀ vs, ∃ e, Decoder.list Decoder.string (.array vs (some flaw)) = .error e := by
      intro vs
      rw [Decoder.list]
      cases Decoder.items Decoder.string vs <;> exact ⟨_, rfl⟩
    obtain ⟨e, he⟩ := hfail items
    obtain ⟨e', he'⟩ := hfail items'
    rw [he, he']
    exact .error e e'

/-! ## Replies -/

namespace LocalApi

variable {status : Nat} {bytes : List UInt8} {value : Json} {trailing : Bool}

/-- A reply of success holds the devices of its document. -/
theorem devices_answered (hstatus : Reply.isSuccess status = true)
    (hbytes : Document.ofBytes bytes = ⟨value, false⟩) {ds : List Device} :
    devices (.answered status bytes true) = .ok ds ↔
      ∃ s, Status.decoder value = .ok s ∧ s.devices = ds := by
  have hread := Status.decoder.ofBytes_eq hbytes
  cases hvalue : Status.decoder value <;>
    simp [devices, LocalApi.status, Reply.decode, Reply.body, hstatus, hread, hvalue, bind,
      Except.bind, Except.map]

/-- A reply whose document is not read holds no devices at all. -/
theorem devices_unread (hstatus : Reply.isSuccess status = true)
    (hbytes : Document.ofBytes bytes = ⟨value, trailing⟩) (h : ∀ s, Status.decoder value ≠ .ok s) :
    ∃ cause, devices (.answered status bytes true) = .error (.payload localHost cause) := by
  cases hvalue : Status.decoder value with
  | ok s => exact absurd hvalue (h s)
  | error cause =>
    have hread : Status.decoder.ofBytes bytes = .error cause := by
      rw [Decoder.ofBytes, hbytes, Decoder.run, hvalue]
      rfl
    exact ⟨cause, by simp [devices, LocalApi.status, Reply.decode, Reply.body, hstatus, hread, bind,
      Except.bind, Except.map]⟩

end LocalApi

namespace Status

/-- **The devices of a status are reproducible.**  They are those which the document describes, and
    what else it tells, of the node itself, does not count.  They are the same for documents which
    differ in the order of members at any level, in members which are no fields, and in the order
    and the repetition of tags.  A document with an address which is none is not read at all. -/
theorem devices_reproducible :
    (∀ value s, decoder value = .ok s → ∃ tailnet keys, Describes value tailnet keys s.devices) ∧
    (∀ value value' s s', decoder value = .ok s → decoder value' = .ok s' →
      value.values fieldNames "Peer" = value'.values fieldNames "Peer" →
      value.values fieldNames "CurrentTailnet" = value'.values fieldNames "CurrentTailnet" →
      s.devices = s'.devices) ∧
    (∀ value value', Rewording Eq Json.SameItems value value' → ∀ ds,
      ((∃ s, decoder value = .ok s ∧ s.devices = ds) ↔
        ∃ s, decoder value' = .ok s ∧ s.devices = ds) ∧
      ∀ status bytes bytes', Reply.isSuccess status = true →
        Document.ofBytes bytes = ⟨value, false⟩ → Document.ofBytes bytes' = ⟨value', false⟩ →
        (LocalApi.devices (.answered status bytes true) = .ok ds ↔
          LocalApi.devices (.answered status bytes' true) = .ok ds)) ∧
    ∀ value, (∃ item ∈ addressItems value, ∀ a, ¬ item.Spells a) →
      (∀ s, decoder value ≠ .ok s) ∧
      ∀ status bytes trailing, Reply.isSuccess status = true →
        Document.ofBytes bytes = ⟨value, trailing⟩ → ∃ cause,
          LocalApi.devices (.answered status bytes true) = .error (.payload localHost cause) := by
  have hunread : ∀ value, (∃ item ∈ addressItems value, ∀ a, ¬ item.Spells a) →
      ∀ s, decoder value ≠ .ok s := by
    rintro value ⟨item, hitem, hnone⟩ s hs
    obtain ⟨a, ha⟩ := spells_of_decoder hs item hitem
    exact hnone a ha
  have hkeeps : ∀ value value', Rewording Eq Json.SameItems value value' → ∀ ds,
      ((∃ s, decoder value = .ok s ∧ s.devices = ds) ↔
        ∃ s, decoder value' = .ok s ∧ s.devices = ds) := by
    intro value value' h ds
    have hkeeps := devices_keeps (Decoder.keeps_eq _ _) Decoder.tags_keep
    exact Except.alike_iff.1 (hkeeps value value' h) ds
  refine ⟨fun value s hs => ⟨_, _, describes_devices hs⟩,
    fun value value' s s' hs hs' => devices_congr hs hs',
    fun value value' h ds => ⟨hkeeps value value' h ds, ?_⟩,
    fun value h => ⟨hunread value h, ?_⟩⟩
  · intro status bytes bytes' hstatus hbytes hbytes'
    rw [LocalApi.devices_answered hstatus hbytes, LocalApi.devices_answered hstatus hbytes']
    exact hkeeps value value' h ds
  · intro status bytes trailing hstatus hbytes
    exact LocalApi.devices_unread hstatus hbytes (hunread value h)

/-- Two peers in another order, with more about the node itself, with tags repeated, and with an
    address which is none. -/
theorem devices_reproducible_swapped :
    (∃ tailnet keys, Describes
      (.record [("Peer", .record [("b", .record [("Tags", .list [.string "y", .string "x"])]),
        ("a", .record [])])]) tailnet keys
      [Peer.toDevice "" {}, Peer.toDevice "" { tags := some ["y", "x"] }]) ∧
    (∃ s, decoder (.record [("Version", .null), ("Peer", .record [("a", .record []),
        ("b", .record [("Tags", .list [.string "x", .string "y", .string "x"])])])]) = .ok s ∧
      s.devices = [Peer.toDevice "" {}, Peer.toDevice "" { tags := some ["y", "x"] }]) ∧
    (∀ s, decoder (.record [("Self", .record [("Online", .bool false)]),
        ("Peer", .record [("a", .record [])])]) = .ok s → [Peer.toDevice "" {}] = s.devices) ∧
    ∀ s, decoder (.record [("Peer", .record [("a", .record []),
      ("b", .record [("TailscaleIPs", .list [.string "100.64.0.3", .string "100.64.0.300"])])])]) ≠
        .ok s := by
  let a : Option String × Json := (some "a", .record [])
  let b (tags : List Json) : Option String × Json := (some "b", .record [("Tags", .list tags)])
  let peers (members : List (Option String × Json)) : Option String × Json :=
    (some "Peer", .object members none)
  have hread : decoder (.object [peers [b [.string "y", .string "x"], a]] none) =
      .ok { peers := some (.ofList [("a", {}), ("b", { tags := some ["y", "x"] })]) } := rfl
  have hswap : Rewording Eq Json.SameItems (.object [peers [b [.string "y", .string "x"], a]] none)
      (.object [peers [a, b [.string "y", .string "x"]]] none) := by
    refine .rel _ _ (.member (by decide) ?_)
    exact .order (by decide) (.swap _ _ [])
  have htags : Rewording Eq Json.SameItems (.object [peers [a, b [.string "y", .string "x"]]] none)
      (.object [peers [a, b [.string "x", .string "y", .string "x"]]] none) := by
    refine .rel _ _ (.member (by decide) ?_)
    refine @Json.MapChange.value _ [a] [] none (some "b") _ _ (.member (by decide) ?_)
    exact .intro fun v => by simp; tauto
  have hother : Rewording Eq Json.SameItems
      (.object [peers [a, b [.string "x", .string "y", .string "x"]]] none)
      (.object [(some "Version", .null), peers [a, b [.string "x", .string "y", .string "x"]]]
        none) := .rel _ _ (.other (by decide) .null)
  refine ⟨?_, ?_, ?_, ?_⟩
  · exact devices_reproducible.1 _ _ hread
  · exact ((devices_reproducible.2.2.1 _ _ ((hswap.trans _ _ _ htags).trans _ _ _ hother) _).1).1
      ⟨_, hread, rfl⟩
  · intro s hs
    have halone : decoder (.object [peers [a]] none) =
        .ok { peers := some (.ofList [("a", {})]) } := rfl
    exact devices_reproducible.2.1 _ _ _ _ halone hs rfl rfl
  · refine (devices_reproducible.2.2.2 _ ⟨.string "100.64.0.300", .tail _ (.head _), ?_⟩).1
    rintro a ⟨h⟩
    have hnone : Address.ofText? "100.64.0.300" = none := by decide +kernel
    rw [Address.ofText?_eq_some.2 h] at hnone
    cases hnone

end Status

end TailnetTargets
