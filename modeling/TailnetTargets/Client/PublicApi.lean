/-
  The public interface, which is reached over the web.

  * `PublicApi`: where the interface is reached, which tailnet is asked for, and with which
    credentials.  It is the service itself until another base is asked for (`withBase`);
  * `devicesRequest` asks for the devices of the tailnet, `tokenRequest` for an access token;
  * `devices` gives the devices which a reply holds, each marked with the host and the tailnet;
  * `Grant`: an access token with its lifetime, and `grant` the one which a reply holds;
  * `AccessToken`: a token which may be used until an instant.

  A token is given up a minute before it expires.
-/
import TailnetTargets.Client.Credentials
import TailnetTargets.Client.PublicAddress
import TailnetTargets.Client.Request
import TailnetTargets.Device.Json
import TailnetTargets.Text.Base64
import TailnetTargets.Url.Parser

namespace TailnetTargets

/-- A client of the public interface. -/
structure PublicApi where
  /-- where the interface is reached -/
  base : ApiBase
  /-- the tailnet which is asked for -/
  tailnet : String
  /-- what requests prove themselves with -/
  credentials : Credentials
deriving DecidableEq, Repr

/-- An access token with its lifetime. -/
structure Grant where
  /-- the token -/
  token : String
  /-- for how many seconds it is accepted -/
  seconds : Nat
deriving DecidableEq, Repr

namespace Grant

/-- How long before its end a token is given up. -/
def margin : Nat := 60

/-- How long the token may be used. -/
def lifetime (g : Grant) : Duration := .ofSeconds (g.seconds - margin)

/-- How a token is read. -/
def format : Format Grant where
  start := ⟨"", 0⟩
  fields := [
    { Decoder.string.field "access_token" fun v g => { g with token := v } with required := true },
    (Decoder.natural (Nat.pow 2 64)).field "expires_in" fun v g => { g with seconds := v }]

end Grant

namespace PublicApi

/-- A client of the service itself. -/
def standard (tailnet : String) (credentials : Credentials) : PublicApi :=
  ⟨.standard, tailnet, credentials⟩

/-- The client at the base which a text asks for, wherever it was before. -/
def withBase (c : PublicApi) (base : String) : PublicApi := { c with base := .ofText base }

/-- What the interface is counted under. -/
def endpoint (c : PublicApi) : Endpoint := ⟨"public", c.base.host⟩

/-! ## Requests -/

/-- Whether a value can be sent as a header: no controls but tabs. -/
def isHeaderValue (s : String) : Bool :=
  s.toList.all fun c => c = '\t' || (0x20 ≤ c.toNat && c.toNat ≠ 0x7f)

/-- Whether the host of an address can be asked. -/
def canBeAsked (u : Url) : Bool :=
  !u.authority.any fun c => c = '"' || c.toNat = 0x60 || c = '\x7b' || c = '\x7d'

/-- The address at which something is asked for, if that is possible. -/
def address (url : String) (authorization : Option String) : Except RequestFault Url :=
  match Url.ofText? url with
  | none => .error (.unusable none)
  | some u =>
    if u.host.isNone then .error (.unusable (some u.text))
    else if !(authorization.all isHeaderValue) then .error (.unusable none)
    else if (u.isPlainWeb || u.isSecureWeb) && canBeAsked u then .ok u
    else .error (.unusable (some u.text))

/-- The address of the devices. -/
def devicesUrl (c : PublicApi) : String := c.base.url ++ devicesPath c.tailnet

/-- The address of the token exchange. -/
def tokenUrl (c : PublicApi) : String := c.base.url ++ tokenPath

/-- How a request proves itself with an access token of its own. -/
def basicAuthorization (token : String) : String :=
  "Basic " ++ String.ofList (Text.base64 (token ++ ":").toUTF8.toList)

/-- How a request proves itself with an access token which was given out. -/
def bearerAuthorization (token : String) : String := "Bearer " ++ token

/-- The request for the devices. -/
def devicesRequest (c : PublicApi) (authorization : String) : Except RequestFault Request := do
  let u ← address c.devicesUrl (some authorization)
  return {
    method := .get
    target := u.target
    host := String.ofList u.authority
    isPlain := u.isPlainWeb
    accept := some "application/json"
    authorization := some authorization }

/-- The form which asks for an access token. -/
def tokenForm (id secret : String) : List (String × String) :=
  [("client_id", id), ("client_secret", secret), ("grant_type", "client_credentials"),
    ("scope", "devices:core:read")]

/-- The request for an access token. -/
def tokenRequest (c : PublicApi) (id secret : String) : Except RequestFault Request := do
  let u ← address c.tokenUrl none
  return {
    method := .post
    target := u.target
    host := String.ofList u.authority
    isPlain := u.isPlainWeb
    accept := some "*/*"
    contentType := some "application/x-www-form-urlencoded"
    body := some (Percent.formEncode (tokenForm id secret)) }

/-! ## Replies -/

/-- The text of an address in a message. -/
def urlText (url : String) : String := ((Url.ofText? url).map Url.text).getD url

/-- How a missing reply to a request for an address is named. -/
def faults (url : String) : TransportFaults :=
  ⟨.unanswered (urlText url), .unanswered (urlText url), .bodyUndecoded⟩

/-- The failure of a request which took too long. -/
def tooSlow (c : PublicApi) (url : String) : Failure :=
  .request c.base.host (.unanswered (urlText url))

/-- The token which a reply holds. -/
def grant (c : PublicApi) (r : Reply) : Except Failure Grant :=
  r.decode c.base.host (faults c.tokenUrl) Grant.format.decode

/-- How a list of devices is read: a record of which only the devices count. -/
def listFormat : Format (List Device) where
  start := []
  fields := [(Decoder.list Device.decoder).field "devices" fun v _ => v]

/-- A device with the host and the tailnet for which it was reported. -/
def stamp (c : PublicApi) (d : Device) : Device :=
  { d with api := c.base.host, tailnet := c.tailnet }

/-- The devices which a reply holds. -/
def devices (c : PublicApi) (r : Reply) : Except Failure (List Device) :=
  (r.decode c.base.host (faults c.devicesUrl) listFormat.decode).map (·.map c.stamp)

end PublicApi

end TailnetTargets
