/-
  What `null` stands for in the documents which the interfaces answer with.

  * `Envelope`: these documents and the parts of a status, each of which is read as a record;
  * `Envelope.lenient`, `Envelope.strict`: the members with a default for which `null` stands for
    nothing, and those which are not read from `null`;
  * `Envelope.LeftOut`: one `null` of a document is left out, at any level;
  * `Envelope.NullMeansAbsent`: every member with a default which is `null` may be left out;
  * `Envelope.nulls_read`: **any number of lenient members which are `null` may be left out, and one
    strict member which is `null` fails the whole document**;
  * `Envelope.not_nullMeansAbsent`: so `null` does not always mean what its absence means.
-/
import TailnetTargets.Client.PublicApi
import TailnetTargets.Proofs.Client.Rewording
import TailnetTargets.Proofs.Json.Nulls
import TailnetTargets.Proofs.Json.RoundTrip

namespace TailnetTargets

/-! ## Replies -/

namespace Reply

variable {α : Type} {decoder : Decoder α} {api : String} {faults : TransportFaults} {status : Nat}
  {bytes bytes' : List UInt8} {value value' : Json} {trailing : Bool}

/-- A reply depends on what is read of its document. -/
theorem decode_congr (h : decoder value = decoder value')
    (hbytes : Document.ofBytes bytes = ⟨value, trailing⟩)
    (hbytes' : Document.ofBytes bytes' = ⟨value', trailing⟩) (whole : Bool) :
    (answered status bytes whole).decode api faults decoder =
      (answered status bytes' whole).decode api faults decoder := by
  have hread : decoder.ofBytes bytes = decoder.ofBytes bytes' := by
    rw [Decoder.ofBytes, Decoder.ofBytes, hbytes, hbytes', Decoder.run, Decoder.run, h]
  simp only [decode, body]
  split
  · rfl
  · split
    · simp only [bind, Except.bind, hread]
    · rfl

/-- A reply of success whose document is not read fails for what is wrong with the document. -/
theorem decode_error {cause : JsonError} (h : decoder value = .error cause)
    (hstatus : isSuccess status = true) (hbytes : Document.ofBytes bytes = ⟨value, trailing⟩) :
    (answered status bytes true).decode api faults decoder = .error (.payload api cause) := by
  have hread : decoder.ofBytes bytes = .error cause := by
    rw [Decoder.ofBytes, hbytes, Decoder.run, h]
    rfl
  simp [decode, body, hstatus, hread, bind, Except.bind]

end Reply

/-! ## Formats -/

theorem Grant.format_isPlain : format.IsPlain ["access_token", "expires_in"] :=
  ⟨rfl, by decide, by simp [format, Decoder.field]⟩

theorem PublicApi.listFormat_isPlain : listFormat.IsPlain ["devices"] :=
  ⟨rfl, by decide, by simp [listFormat, Decoder.field]⟩

theorem Grant.format_isIndependent : format.IsIndependent :=
  List.pairwise_pair.2 <| Format.commute_of_put rfl rfl fun _ _ _ => rfl

theorem PublicApi.listFormat_isIndependent : listFormat.IsIndependent := List.pairwise_singleton _ _

/-! ## Documents -/

/-- The documents which the interfaces answer with, and the parts of a status. -/
inductive Envelope where
  /-- the devices of a tailnet -/
  | listing
  /-- an access token -/
  | grant
  /-- the status of the local node -/
  | status
  /-- a node in a status: the local one or a peer -/
  | peer
  /-- the tailnet in a status -/
  | tailnet

namespace Envelope

/-- What is read of a document. -/
def Content : Envelope → Type
  | listing => List Device
  | grant => Grant
  | status => Status
  | peer => Peer
  | tailnet => String

/-- How a document is read. -/
def format : (e : Envelope) → Format e.Content
  | listing => PublicApi.listFormat
  | grant => Grant.format
  | status => Status.format
  | peer => Peer.format
  | tailnet => Status.tailnetFormat

/-- What a value holds. -/
def decoder (e : Envelope) : Decoder e.Content := e.format.decode

/-- The names of the members. -/
def names (e : Envelope) : List String := e.format.fields.map (·.name)

/-- The members which have a default. -/
def defaulted (e : Envelope) : List String :=
  (e.format.fields.filter fun f => !f.required).map (·.name)

/-- The members for which `null` stands for nothing. -/
def lenient : Envelope → List String
  | status => ["TailscaleIPs", "Self", "Peer", "CurrentTailnet"]
  | peer => ["TailscaleIPs", "Tags", "Online"]
  | listing | grant | tailnet => []

/-- The members which are not read from `null`, although they have a default. -/
def strict : Envelope → List String
  | listing => ["devices"]
  | grant => ["expires_in"]
  | peer => ["ID", "HostName", "DNSName", "OS"]
  | tailnet => ["Name"]
  | status => []

theorem format_isPlain : ∀ e : Envelope, e.format.IsPlain e.names
  | listing => PublicApi.listFormat_isPlain
  | grant => Grant.format_isPlain
  | status => Status.format_isPlain
  | peer => Peer.format_isPlain
  | tailnet => Status.tailnetFormat_isPlain

theorem format_isIndependent : ∀ e : Envelope, e.format.IsIndependent
  | listing => PublicApi.listFormat_isIndependent
  | grant => Grant.format_isIndependent
  | status => Status.format_isIndependent
  | peer => Peer.format_isIndependent
  | tailnet => Status.tailnetFormat_isIndependent

theorem isLenient (e : Envelope) :
    ∀ name ∈ e.lenient, ∃ f, e.format.field? name = some f ∧ f.IsLenient e.format.start := by
  cases e <;>
    simp only [lenient, List.forall_mem_cons, List.not_mem_nil, false_implies, implies_true,
      and_true]
  case status | peer =>
    and_intros
    all_goals exact ⟨_, rfl, rfl, _, rfl, rfl⟩

theorem isStrict (e : Envelope) :
    ∀ name ∈ e.strict, ∃ f, e.format.field? name = some f ∧ f.IsStrict := by
  cases e <;>
    simp only [strict, List.forall_mem_cons, List.not_mem_nil, false_implies, implies_true,
      and_true]
  case listing | grant | peer | tailnet =>
    and_intros
    all_goals exact ⟨_, rfl, rfl⟩

/-- One `null` of a document is left out, where `which` says whose: a member of the document itself,
    or one of a part of a status. -/
inductive LeftOut (which : Envelope → List String) : Envelope → Json → Json → Prop
  /-- of the document -/
  | own {e : Envelope} {value value' : Json}
      (h : Json.NullLeftOut e.names (which e) value value') : LeftOut which e value value'
  /-- of the local node -/
  | inNode {value value' : Json}
      (h : Json.FieldChange status.names "Self" (Json.NullLeftOut peer.names (which peer))
        value value') : LeftOut which status value value'
  /-- of a peer -/
  | inPeer {value value' : Json}
      (h : Json.FieldChange status.names "Peer"
        (Json.EntryChange (Json.NullLeftOut peer.names (which peer))) value value') :
      LeftOut which status value value'
  /-- of the tailnet -/
  | inTailnet {value value' : Json}
      (h : Json.FieldChange status.names "CurrentTailnet"
        (Json.NullLeftOut tailnet.names (which tailnet)) value value') :
      LeftOut which status value value'

/-- One `null` of a peer is left out of a status which tells of peers alone. -/
theorem LeftOut.ofPeers {which : Envelope → List String}
    (before after : List (Option String × Json)) {key : Option String} {value value' : Json}
    (h : Json.NullLeftOut peer.names (which peer) value value') :
    LeftOut which status
      (.object [(some "Peer", .object (before ++ (key, value) :: after) none)] none)
      (.object [(some "Peer", .object (before ++ (key, value') :: after) none)] none) :=
  .inPeer (@Json.FieldChange.member _ _ _ [] [] none _ _ (.intro h))

/-- Documents compare, if each kind of them does with one of its own members left out. -/
theorem compares_leftOut {which : Envelope → List String} {c : Comparison}
    (h : ∀ e : Envelope, e.decoder.Compares c (Json.NullLeftOut e.names (which e)))
    (e : Envelope) : e.decoder.Compares c (LeftOut which e) := by
  intro value value' hchange
  cases hchange with
  | own hchange => exact h e _ _ hchange
  | inNode hchange =>
    have hself := (h .peer).nullable Json.NullLeftOut.ne_null
    exact Format.compares_field Status.format_isPlain rfl (hself.field _ _) _ _ hchange
  | inPeer hchange =>
    have hpeers := (h .peer).keyMap.nullable Json.EntryChange.ne_null
    exact Format.compares_field Status.format_isPlain rfl (hpeers.field _ _) _ _ hchange
  | inTailnet hchange =>
    have htailnet := (h .tailnet).nullable Json.NullLeftOut.ne_null
    exact Format.compares_field Status.format_isPlain rfl (htailnet.field _ _) _ _ hchange

theorem same_of_leftOut (e : Envelope) : e.decoder.Compares .same (LeftOut lenient e) :=
  compares_leftOut (fun e => Format.same_of_null e.format_isPlain e.format_isIndependent
    e.isLenient) e

theorem refused_of_leftOut (e : Envelope) : e.decoder.Compares .refused (LeftOut strict e) :=
  compares_leftOut (fun e => Format.refused_of_null e.format_isPlain e.isStrict) e

/-! ## What `null` stands for -/

/-- Any number of members which have a default and are `null` may be left out of a document. -/
def NullMeansAbsent (e : Envelope) : Prop :=
  ∀ value value', Relation.ReflTransGen (LeftOut defaulted e) value value' →
    e.decoder value = e.decoder value'

/-- **A `null` is as good as nothing for some of the members with a default, and fails the whole
    document for the others.**  Each member with a default is lenient or strict.  Any number of
    lenient members which are `null` may be left out, of the document and of its parts: the result
    stays the same, be it a value or an error, and so does that of a reply with the document.  One
    strict member which is `null`, at whatever level, fails the document, and that for its type
    alone if the document is read without it; a reply of success with it fails with its payload. -/
theorem nulls_read (e : Envelope) :
    e.defaulted.Perm (e.lenient ++ e.strict) ∧
    (∀ value value', Relation.ReflTransGen (LeftOut lenient e) value value' →
      e.decoder value = e.decoder value' ∧
      ∀ api faults status bytes bytes' whole trailing,
        Document.ofBytes bytes = ⟨value, trailing⟩ → Document.ofBytes bytes' = ⟨value', trailing⟩ →
        (Reply.answered status bytes whole).decode api faults e.decoder =
          (Reply.answered status bytes' whole).decode api faults e.decoder) ∧
    ∀ value value', LeftOut strict e value value' → ∃ cause,
      e.decoder value = .error cause ∧
      ((∃ content, e.decoder value' = .ok content) → cause = .mismatch) ∧
      ∀ api faults status bytes trailing, Reply.isSuccess status = true →
        Document.ofBytes bytes = ⟨value, trailing⟩ →
        (Reply.answered status bytes true).decode api faults e.decoder =
          .error (.payload api cause) := by
  refine ⟨?_, fun value value' h => ?_, fun value value' h => ?_⟩
  · cases e <;> decide
  · have hsame : e.decoder value = e.decoder value' := e.same_of_leftOut.reflTransGen _ _ h
    exact ⟨hsame, fun _ _ _ _ _ whole _ hbytes hbytes' =>
      Reply.decode_congr hsame hbytes hbytes' whole⟩
  · obtain ⟨cause, herror, hcause⟩ := e.refused_of_leftOut value value' h
    exact ⟨cause, herror, hcause, fun _ _ _ _ _ hstatus hbytes =>
      Reply.decode_error herror hstatus hbytes⟩

/-- Peers of which nothing but an identifier is told, and that only by leaving members out or by
    `null`; and a peer whose system is `null`. -/
theorem nulls_read_peers :
    Status.decoder (.record [("Self", .null), ("Peer", .record [
        ("a", .record [("Tags", .null), ("ID", .string "1")]),
        ("b", .list [.string "2", .string "", .string "", .string "", .null])])]) =
      Status.decoder (.record [("Peer", .record [("a", .record [("ID", .string "1")]),
        ("b", .list [.string "2", .string "", .string "", .string ""])])]) ∧
    LocalApi.devices (.answered 200 (Text.utf8 (Json.record
        [("Peer", .record [("a", .record [("ID", .string "1"), ("OS", .null)])])]).render.toList)
          true) = .error (.payload localHost .mismatch) := by
  let id : Option String × Json := (some "ID", .string "1")
  let a (tags : List (Option String × Json)) : Option String × Json :=
    (some "a", .object (tags ++ [id]) none)
  let b (addresses : List Json) : Option String × Json :=
    (some "b", .list ([.string "2", .string "", .string "", .string ""] ++ addresses))
  let peers (members : List (Option String × Json)) : Option String × Json :=
    (some "Peer", .object members none)
  constructor
  · have hself : LeftOut lenient status
        (.object [(some "Self", .null), peers [a [(some "Tags", .null)], b [.null]]] none)
        (.object [peers [a [(some "Tags", .null)], b [.null]]] none) :=
      .own (@Json.NullLeftOut.member _ _ [] [peers _] _ _ (by decide) (by simp [peers]))
    have htags : LeftOut lenient status
        (.object [peers [a [(some "Tags", .null)], b [.null]]] none)
        (.object [peers [a [], b [.null]]] none) :=
      .ofPeers [] _ (@Json.NullLeftOut.member _ _ [] [id] _ _ (by decide) (by simp [id]))
    have haddresses : LeftOut lenient status (.object [peers [a [], b [.null]]] none)
        (.object [peers [a [], b []]] none) :=
      .ofPeers [a []] _ (.item (by decide) rfl)
    have hall := ((Relation.ReflTransGen.single hself).tail htags).tail haddresses
    exact ((nulls_read status).2.1 _ _ hall).1
  · have hsystem : LeftOut strict status
        (.object [peers [(some "a", .object [id, (some "OS", .null)] none)]] none)
        (.object [peers [(some "a", .object [id] none)]] none) :=
      .ofPeers [] _ (@Json.NullLeftOut.member _ _ [id] [] _ _ (by decide) (by simp [id]))
    obtain ⟨cause, -, hcause, hreply⟩ := (nulls_read status).2.2 _ _ hsystem
    obtain rfl := hcause ⟨_, rfl⟩
    have hsound : (Json.record [("Peer", .record [("a",
        .record [("ID", .string "1"), ("OS", .null)])])]).IsSound := by
      refine .record fun m hm => ?_
      obtain rfl := List.mem_singleton.1 hm
      refine .record fun m hm => ?_
      obtain rfl := List.mem_singleton.1 hm
      refine .record fun m hm => ?_
      rcases List.mem_pair.1 hm with rfl | rfl
      · exact .string _
      · exact .null
    have hfailed := hreply localHost LocalApi.faults 200 _ _ rfl (Json.ofBytes_render hsound)
    exact congrArg (Except.map Status.devices) hfailed

theorem not_nullMeansAbsent_of {e : Envelope} {value value' : Json} {cause : JsonError}
    {content : e.Content} (h : LeftOut defaulted e value value')
    (herror : e.decoder value = .error cause) (hok : e.decoder value' = .ok content) :
    ¬ e.NullMeansAbsent := by
  intro hnull
  have hsame := hnull _ _ (.single h)
  rw [herror, hok] at hsame
  cases hsame

/-- A document of each kind in which one member is `null`, and which is read without it. -/
theorem not_nullMeansAbsent :
    ¬ listing.NullMeansAbsent ∧ ¬ grant.NullMeansAbsent ∧ ¬ status.NullMeansAbsent ∧
      ¬ peer.NullMeansAbsent ∧ ¬ tailnet.NullMeansAbsent := by
  have hlast : ∀ {names which : List String} (before : List (Option String × Json))
      (name : String), name ∈ which → (∀ m ∈ before, m.1 ≠ some name) →
      Json.NullLeftOut names which (.object (before ++ [(some name, .null)]) none)
        (.object (before ++ []) none) :=
    fun before name hname honly => .member hname (by simpa using honly)
  have hgrant : LeftOut defaulted grant
      (.object [(some "access_token", .string "t"), (some "expires_in", .null)] none)
      (.object [(some "access_token", .string "t")] none) :=
    .own (hlast [(some "access_token", .string "t")] "expires_in" (by decide) (by simp))
  have hstatus : LeftOut defaulted status
      (.object [(some "Peer", .object [(some "a", .object [(some "OS", .null)] none)] none)] none)
      (.object [(some "Peer", .object [(some "a", .object [] none)] none)] none) :=
    .ofPeers [] [] (hlast [] "OS" (by decide) (by simp))
  refine ⟨?_, not_nullMeansAbsent_of hgrant rfl rfl, not_nullMeansAbsent_of hstatus rfl rfl,
    ?_, ?_⟩
  · exact not_nullMeansAbsent_of (.own (hlast [] "devices" (by decide) (by simp))) rfl rfl
  · exact not_nullMeansAbsent_of (.own (hlast [] "OS" (by decide) (by simp))) rfl rfl
  · exact not_nullMeansAbsent_of (.own (hlast [] "Name" (by decide) (by simp))) rfl rfl

end Envelope

end TailnetTargets
