/-
  Secrets of credentials, and where they go.

  * `Credentials.Alike`: credentials which differ in nothing but a secret, and `PublicApi.Alike`;
  * `Request.Alike`: requests of such interfaces which differ in nothing but what the secrets put
    into them: the proof of a request with an access token, and the form which asks for a token;
  * `address_basicAuthorization`: an access token is never the reason why a request cannot be put
    together, since it is sent in base 64.  `Alike.devicesRequest_token` and
    `Alike.tokenRequest_client`: both requests can be put together or neither can, and they are alike.
-/
import TailnetTargets.Client.PublicApi

namespace TailnetTargets

/-- Credentials which differ in nothing but a secret. -/
inductive Credentials.Alike : Credentials → Credentials → Prop where
  | token (token token' : String) : Alike (.token token) (.token token')
  | client (id secret secret' : String) : Alike (.client id secret) (.client id secret')

theorem Credentials.Alike.refl : ∀ c : Credentials, c.Alike c
  | .token _ => .token ..
  | .client .. => .client ..

theorem Credentials.Alike.describe {c c' : Credentials} (h : c.Alike c') :
    c.describe = c'.describe := by
  cases h <;> rfl

/-! ## Access tokens as headers -/

namespace Text

theorem toNat_base64Digit (n : Nat) :
    0x20 ≤ (base64Digit n).toNat ∧ (base64Digit n).toNat ≠ 0x7f := by
  have hsmall : ∀ m < 64, 0x20 ≤ (base64Digit m).toNat ∧ (base64Digit m).toNat ≠ 0x7f := by decide
  by_cases h : n < 64
  · exact hsmall n h
  · have hslash : base64Digit n = '/' := by
      unfold base64Digit
      rw [if_neg (by omega), if_neg (by omega), if_neg (by omega), if_neg (by omega)]
    rw [hslash]
    decide

/-- No character of base 64 is a control. -/
theorem mem_base64 {bytes : List UInt8} {c : Char} (h : c ∈ base64 bytes) :
    0x20 ≤ c.toNat ∧ c.toNat ≠ 0x7f := by
  have hfill : 0x20 ≤ '='.toNat ∧ '='.toNat ≠ 0x7f := by decide
  induction bytes using base64.induct with
  | case1 => cases h
  | case2 a =>
    simp only [base64, List.mem_cons, List.not_mem_nil, or_false] at h
    obtain rfl | rfl | rfl | rfl := h
    · exact toNat_base64Digit _
    · exact toNat_base64Digit _
    · exact hfill
    · exact hfill
  | case3 a b =>
    simp only [base64, List.mem_cons, List.not_mem_nil, or_false] at h
    obtain rfl | rfl | rfl | rfl := h
    · exact toNat_base64Digit _
    · exact toNat_base64Digit _
    · exact toNat_base64Digit _
    · exact hfill
  | case4 a b d rest ih =>
    simp only [base64, List.mem_cons] at h
    obtain rfl | rfl | rfl | rfl | h := h
    · exact toNat_base64Digit _
    · exact toNat_base64Digit _
    · exact toNat_base64Digit _
    · exact toNat_base64Digit _
    · exact ih h

end Text

namespace PublicApi

theorem isHeaderValue_basicAuthorization (token : String) :
    isHeaderValue (basicAuthorization token) := by
  have hbasic : ∀ c ∈ "Basic ".toList, c = '\t' ∨ 0x20 ≤ c.toNat ∧ c.toNat ≠ 0x7f := by simp
  simp only [isHeaderValue, basicAuthorization, String.toList_append, String.toList_ofList,
    List.all_eq_true, Bool.or_eq_true, Bool.and_eq_true, decide_eq_true_eq, List.mem_append]
  rintro c (h | h)
  · exact hbasic c h
  · exact Or.inr (Text.mem_base64 h)

/-- **An access token does not matter to where a request goes**, or whether it goes. -/
theorem address_basicAuthorization (url token : String) :
    address url (some (basicAuthorization token)) = address url none := by
  unfold address
  simp [isHeaderValue_basicAuthorization]

/-- Interfaces which differ in nothing but a secret. -/
structure Alike (c c' : PublicApi) : Prop where
  base : c.base = c'.base
  tailnet : c.tailnet = c'.tailnet
  credentials : c.credentials.Alike c'.credentials

variable {c c' : PublicApi}

theorem Alike.refl (c : PublicApi) : c.Alike c := ⟨rfl, rfl, .refl _⟩

theorem Alike.devicesUrl (h : c.Alike c') : c.devicesUrl = c'.devicesUrl := by
  rw [PublicApi.devicesUrl, h.base, h.tailnet]
  rfl

theorem Alike.tokenUrl (h : c.Alike c') : c.tokenUrl = c'.tokenUrl := by
  rw [PublicApi.tokenUrl, h.base]
  rfl

theorem Alike.endpoint (h : c.Alike c') : c.endpoint = c'.endpoint := by
  rw [PublicApi.endpoint, h.base]
  rfl

theorem Alike.tooSlow (h : c.Alike c') (url : String) : c.tooSlow url = c'.tooSlow url := by
  rw [PublicApi.tooSlow, h.base]
  rfl

theorem Alike.grant (h : c.Alike c') (r : Reply) : c.grant r = c'.grant r := by
  rw [PublicApi.grant, h.base, h.tokenUrl]
  rfl

theorem Alike.devices (h : c.Alike c') (r : Reply) : c.devices r = c'.devices r := by
  have hstamp : c.stamp = c'.stamp := by
    funext d
    rw [stamp, h.base, h.tailnet]
    rfl
  rw [PublicApi.devices, h.base, h.devicesUrl, hstamp]
  rfl

theorem Alike.devicesRequest (h : c.Alike c') (authorization : String) :
    c.devicesRequest authorization = c'.devicesRequest authorization := by
  rw [PublicApi.devicesRequest, h.devicesUrl]
  rfl

end PublicApi

/-! ## Requests -/

/-- Requests of two interfaces which differ in nothing but what the secrets of their credentials put
    into them. -/
inductive Request.Alike (c c' : Credentials) : Request → Request → Prop where
  | same (r : Request) : Alike c c' r r
  | token {token token' : String} (h : c = .token token) (h' : c' = .token token') (r : Request) :
    Alike c c' { r with authorization := some (PublicApi.basicAuthorization token) }
      { r with authorization := some (PublicApi.basicAuthorization token') }
  | client {id secret secret' : String} (h : c = .client id secret) (h' : c' = .client id secret')
    (r : Request) :
    Alike c c' { r with body := some (Percent.formEncode (PublicApi.tokenForm id secret)) }
      { r with body := some (Percent.formEncode (PublicApi.tokenForm id secret')) }

/-- Whatever else a request consists of is the same. -/
theorem Request.Alike.eq_of_shown {c c' : Credentials} {r r' : Request}
    (h : Request.Alike c c' r r') :
    { r with authorization := none, body := none } =
      { r' with authorization := none, body := none } := by
  cases h <;> rfl

/-- Two requests were put together and are related, or neither was, for the same reason. -/
inductive Request.Both (R : Request → Request → Prop) :
    Except RequestFault Request → Except RequestFault Request → Prop where
  | ok {r r' : Request} (h : R r r') : Both R (.ok r) (.ok r')
  | error (fault : RequestFault) : Both R (.error fault) (.error fault)

theorem Request.Both.imp {R S : Request → Request → Prop}
    {request request' : Except RequestFault Request} (hr : Request.Both R request request')
    (h : ∀ r r', R r r' → S r r') : Request.Both S request request' := by
  cases hr with
  | ok hr => exact .ok (h _ _ hr)
  | error fault => exact .error fault

theorem Request.Both.refl {R : Request → Request → Prop} (h : ∀ r, R r r) :
    ∀ request, Request.Both R request request
  | .ok r => .ok (h r)
  | .error fault => .error fault

namespace PublicApi

variable {c c' : PublicApi}

theorem Alike.devicesRequest_token (h : c.Alike c') {token token' : String}
    (hc : c.credentials = .token token) (hc' : c'.credentials = .token token') :
    Request.Both (Request.Alike c.credentials c'.credentials)
      (c.devicesRequest (basicAuthorization token))
      (c'.devicesRequest (basicAuthorization token')) := by
  rw [PublicApi.devicesRequest, PublicApi.devicesRequest, address_basicAuthorization,
    address_basicAuthorization, h.devicesUrl]
  cases address c'.devicesUrl none with
  | error fault => exact .error fault
  | ok u =>
    exact .ok <| .token hc hc' {
      method := .get
      target := u.target
      host := String.ofList u.authority
      isPlain := u.isPlainWeb
      accept := some "application/json" }

theorem Alike.tokenRequest_client (h : c.Alike c') {id secret secret' : String}
    (hc : c.credentials = .client id secret) (hc' : c'.credentials = .client id secret') :
    Request.Both (Request.Alike c.credentials c'.credentials)
      (c.tokenRequest id secret) (c'.tokenRequest id secret') := by
  rw [PublicApi.tokenRequest, PublicApi.tokenRequest, h.tokenUrl]
  cases address c'.tokenUrl none with
  | error fault => exact .error fault
  | ok u =>
    exact .ok <| .client hc hc' {
      method := .post
      target := u.target
      host := String.ofList u.authority
      isPlain := u.isPlainWeb
      accept := some "*/*"
      contentType := some "application/x-www-form-urlencoded" }

end PublicApi

end TailnetTargets
