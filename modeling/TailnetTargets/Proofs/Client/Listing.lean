/-
  What the public interface reports.

  * `PublicApi.listing`: the document in which values are listed as devices, and
    `PublicApi.ofBytes_listing`: its text is read as that document;
  * `PublicApi.devices_listing`: all values are read as devices, and each of them is marked with the
    host and the tailnet that were asked for, or none is reported;
  * `World.AwaitsDevices`: a call of the public interface waits for its devices, and
    `World.outcome?_reply`: how a reply ends it;
  * `World.listing_reported`: how an answer ends it, whatever values the answer lists.
-/
import Mathlib.Data.List.Forall2
import TailnetTargets.Proofs.Discovery.Agreement
import TailnetTargets.Proofs.Json.RoundTrip

namespace TailnetTargets

namespace PublicApi

/-! ## Answers -/

/-- The document in which values are listed as devices. -/
def listing (values : List Json) : Json := .record [("devices", .list values)]

theorem ofBytes_listing {values : List Json} (h : ∀ v ∈ values, v.IsSound) :
    Document.ofBytes (Text.utf8 (listing values).render.toList) = ⟨listing values, false⟩ := by
  refine Json.ofBytes_render (.record fun m hm => ?_)
  rw [List.mem_singleton.1 hm]
  exact .list h

theorem listFormat_listing (values : List Json) :
    listFormat.decode (listing values) = Decoder.items Device.decoder values := by
  have hfield : listFormat.field? "devices" =
      some ((Decoder.list Device.decoder).field "devices" fun v _ => v) := rfl
  simp only [listing, Json.record, Json.list, Format.decode, Format.readMembers, List.map_cons,
    List.map_nil, Decoder.key, hfield, Decoder.field, Decoder.list, bind, Except.bind]
  cases Decoder.items Device.decoder values <;> rfl

section
variable (c : PublicApi) {status : Nat} {body : List UInt8}

theorem body_of_success {api : String} {faults : TransportFaults}
    (hstatus : Reply.isSuccess status = true) :
    (Reply.answered status body true).body api faults = .ok body := by
  simp [Reply.body, hstatus]

theorem devices_of_success (hstatus : Reply.isSuccess status = true) :
    c.devices (.answered status body true) =
      match listFormat.decode.ofBytes body with
      | .ok devices => .ok (devices.map c.stamp)
      | .error cause => .error (.payload c.base.host cause) := by
  rw [devices, Reply.decode, body_of_success hstatus]
  cases h : listFormat.decode.ofBytes body <;> simp [h, bind, Except.bind, Except.map]

theorem devices_of_failure (hstatus : Reply.isSuccess status = false) (whole : Bool) :
    c.devices (.answered status body whole) = .error (.unexpectedStatus c.base.host status) := by
  simp [devices, Reply.decode, Reply.body, hstatus, bind, Except.bind, Except.map]

/-- **All values are read as devices, or none is reported.** -/
theorem devices_listing (hstatus : Reply.isSuccess status = true) {values : List Json}
    (hbody : Document.ofBytes body = ⟨listing values, false⟩) :
    (∃ devices, List.Forall₂ (fun v d => Device.decoder v = .ok d) values devices ∧
        c.devices (.answered status body true) = .ok (devices.map c.stamp)) ∨
      ∃ v ∈ values, ∃ cause, Device.decoder v = .error cause ∧
        c.devices (.answered status body true) = .error (.payload c.base.host cause) := by
  rw [c.devices_of_success hstatus, Decoder.ofBytes_eq _ hbody, listFormat_listing]
  cases h : Decoder.items Device.decoder values with
  | ok devices => exact Or.inl ⟨devices, Decoder.items_eq_ok.1 h, rfl⟩
  | error cause =>
    obtain ⟨v, hv, hcause⟩ := Decoder.exists_of_items_error h
    exact Or.inr ⟨v, hv, cause, hcause, rfl⟩

end

end PublicApi

namespace World

/-! ## Calls -/

/-- Whether a call of the public interface itself, which is not canceled, waits for its devices. -/
def AwaitsDevices (w : World) (i : Nat) (api : PublicApi) : Prop :=
  ∃ t id metered began alarm, w.tasks[i]? = some t ∧ t.refreshes = [] ∧
    w.isCanceled t.scope = false ∧
    t.phase = .calling ⟨.publicApi id api, metered, began, .reply .devices alarm⟩

theorem outcome?_reply {w : World} {i : Nat} {api : PublicApi} (h : w.AwaitsDevices i api)
    (r : Reply) : (w.step (.reply i r)).outcome? i = some (.ofExcept (api.devices r)) := by
  obtain ⟨⟨scope, parent, refreshes, phase⟩, id, metered, began, alarm, ht, rfl, hcanceled, rfl⟩ := h
  have hstep : w.step (.reply i r) = w.endCall i
      ⟨.publicApi id api, metered, began, .reply .devices alarm⟩ (api.devices r) := by
    simp only [step, reply, ht, hcanceled]
    rfl
  rw [hstep, outcome?, (endCall_agrees ..).tasks, ended, List.getElem?_modify_eq, ht,
    refreshesOf_eq ht]
  rfl

/-- **A call of the public interface reports all devices of an answer or none.** Whatever values an
    answer of success lists as devices: if each of them is read as a device then these are reported,
    in their order, with the host and the tailnet that were asked for in place of those which they
    name; if not, the call fails with its payload, for which no device stands in.  Each list of
    values can be answered so.  An answer without success fails with its status, whatever its body
    holds. -/
theorem listing_reported {w : World} {i : Nat} {api : PublicApi} (h : w.AwaitsDevices i api) :
    (∀ (status : Nat) (body : List UInt8) (values : List Json), 200 ≤ status → status ≤ 299 →
      Document.ofBytes body = ⟨PublicApi.listing values, false⟩ →
      ((∀ v ∈ values, ∃ d, Device.decoder v = .ok d) → ∃ devices,
        (w.step (.reply i (.answered status body true))).outcome? i = some (.found devices) ∧
        List.Forall₂ (fun v device => ∃ d, Device.decoder v = .ok d ∧
          device = { d with api := api.base.host, tailnet := api.tailnet }) values devices) ∧
      (¬ (∀ v ∈ values, ∃ d, Device.decoder v = .ok d) → ∃ cause,
        (w.step (.reply i (.answered status body true))).outcome? i =
          some (.failed (.payload api.base.host cause)) ∧
        (Outcome.failed (.payload api.base.host cause)).devices = [])) ∧
    (∀ values : List Json, (∀ v ∈ values, v.IsSound) → Document.ofBytes
      (Text.utf8 (PublicApi.listing values).render.toList) = ⟨PublicApi.listing values, false⟩) ∧
    (∀ (status : Nat) (body : List UInt8) (whole : Bool), ¬ (200 ≤ status ∧ status ≤ 299) →
      (w.step (.reply i (.answered status body whole))).outcome? i =
        some (.failed (.unexpectedStatus api.base.host status))) := by
  have hsuccess : ∀ status, Reply.isSuccess status = true ↔ 200 ≤ status ∧ status ≤ 299 := by
    intro status
    simp only [Reply.isSuccess, Bool.and_eq_true, decide_eq_true_eq]
    omega
  refine ⟨fun status body values hlow hhigh hbody => ?_, fun values hsound =>
    PublicApi.ofBytes_listing hsound, fun status body whole hstatus => ?_⟩
  · rw [outcome?_reply h]
    rcases api.devices_listing ((hsuccess status).2 ⟨hlow, hhigh⟩) hbody with
      ⟨devices, hall, hdevices⟩ | ⟨v, hv, cause, hcause, hdevices⟩
    · have hread : ∀ v ∈ values, ∃ d, Device.decoder v = .ok d :=
        ((List.forall₂_and_left _ _).1 (hall.imp fun v d hd => ⟨⟨d, hd⟩, hd⟩)).1
      rw [hdevices]
      exact ⟨fun _ => ⟨_, rfl, List.forall₂_map_right_iff.2 (hall.imp fun v d hd => ⟨d, hd, rfl⟩)⟩,
        fun hnot => absurd hread hnot⟩
    · have hnot : ¬ ∀ v ∈ values, ∃ d, Device.decoder v = .ok d := by
        intro hall
        obtain ⟨d, hd⟩ := hall v hv
        rw [hd] at hcause
        cases hcause
      rw [hdevices]
      exact ⟨fun hall => absurd hall hnot, fun _ => ⟨cause, rfl, rfl⟩⟩
  · have hfailed : Reply.isSuccess status = false :=
      Bool.eq_false_iff.2 (mt (hsuccess status).1 hstatus)
    rw [outcome?_reply h, api.devices_of_failure hfailed]
    rfl

/-- A client which asks with a token for the devices of a tailnet. -/
def asker : PublicApi := ⟨⟨"http://h", "h"⟩, "t", .token "secret"⟩

/-- A call of that client which waits for the devices. -/
def listingAsked : World := ({} : World).after [.call (.interface (.publicApi 0 asker) true), .run 0]

theorem listingAsked_awaitsDevices : listingAsked.AwaitsDevices 0 asker := by
  have hok : (asker.devicesRequest (PublicApi.basicAuthorization "secret")).isOk = true := by
    decide +kernel
  obtain ⟨request, hrequest⟩ : ∃ request,
      asker.devicesRequest (PublicApi.basicAuthorization "secret") = .ok request := by
    cases h : asker.devicesRequest (PublicApi.basicAuthorization "secret") with
    | ok request => exact ⟨request, rfl⟩
    | error fault => rw [h] at hok; cases hok
  have hrun : listingAsked =
      (({} : World).begin (.ofCall 0) (.interface (.publicApi 0 asker) true)).ask 0
        ⟨.publicApi 0 asker, true, .start, .turn⟩ .devices (.ok request) := by
    rw [← hrequest]
    rfl
  rw [hrun]
  exact ⟨_, 0, true, .start, _, rfl, rfl, rfl, rfl⟩

/-- A device which names another tailnet and no host. -/
def stranger : Json :=
  .record [("id", .string "n1"), ("tailnet", .string "other"), ("api", .null)]

/-- That device alone, and next to a number. -/
theorem listing_reported_stamped :
    (listingAsked.step (.reply 0 (.answered 200
      (Text.utf8 (PublicApi.listing [stranger]).render.toList) true))).outcome? 0 =
        some (.found [{ id := "n1", api := "h", tailnet := "t" }]) ∧
    ∃ cause, (listingAsked.step (.reply 0 (.answered 200
      (Text.utf8 (PublicApi.listing [stranger, .number ['7']]).render.toList) true))).outcome? 0 =
        some (.failed (.payload "h" cause)) := by
  have hseven : Numeral.IsSpelling ([] ++ ['7'] ++ [] ++ []) :=
    .parts (by simp) ⟨⟨by simp, by simp⟩, by simp⟩ (.inl rfl) (.inl rfl)
  have hstranger : stranger.IsSound := by
    refine .record ?_
    simp only [List.forall_mem_cons, List.not_mem_nil, false_implies, implies_true, and_true]
    exact ⟨.string _, .string _, .null⟩
  have hread : Device.decoder stranger = .ok { id := "n1", tailnet := "other" } := rfl
  obtain ⟨hreported, hprinted, -⟩ := listing_reported listingAsked_awaitsDevices
  constructor
  · have hbody := hprinted [stranger] (by simpa using hstranger)
    obtain ⟨devices, hfound, hall⟩ := (hreported 200 _ _ (by decide) (by decide) hbody).1
      (by simpa using ⟨_, hread⟩)
    obtain ⟨_, _, ⟨d, hd, rfl⟩, hnil, rfl⟩ := List.forall₂_cons_left_iff.1 hall
    obtain rfl := Except.ok.inj (hread.symm.trans hd)
    rw [hfound, List.forall₂_nil_left_iff.1 hnil]
    rfl
  · have hbody := hprinted [stranger, .number ['7']] (by simpa using ⟨hstranger, .number hseven⟩)
    obtain ⟨cause, hfailed, -⟩ := (hreported 200 _ _ (by decide) (by decide) hbody).2 fun hall => by
      obtain ⟨d, hd⟩ := hall (.number ['7']) (by simp)
      cases hd
    exact ⟨cause, hfailed⟩

end World

end TailnetTargets
