/-
  Where the public interface is reached.

  * `ApiBase`: the base of every address, and the host under which it is known;
  * `ApiBase.standard`: the host of the service, reached over `https`;
  * `ApiBase.ofText` takes a bare host, which is reached over `https`, or a base with its scheme;
    slashes at the end do not count;
  * `devicesPath` is the path of the devices of a tailnet, `tokenPath` that of the token exchange.
-/

namespace TailnetTargets

/-- The host of the public interface. -/
def publicHost : String := "api.tailscale.com"

/-- The path of the devices of a tailnet. -/
def devicesPath (tailnet : String) : String := s!"/api/v2/tailnet/{tailnet}/devices"

/-- The path at which an access token is given out. -/
def tokenPath : String := "/api/v2/oauth/token"

/-- Where the public interface is reached. -/
structure ApiBase where
  /-- what every address starts with -/
  url : String
  /-- the base without its scheme, which names the interface -/
  host : String
deriving DecidableEq, Repr

namespace ApiBase

/-- The service itself. -/
def standard : ApiBase := ⟨"https://" ++ publicHost, publicHost⟩

/-- A text without the slashes at its end. -/
def trimSlashes (cs : List Char) : List Char := (cs.reverse.dropWhile (· = '/')).reverse

/-- What follows the first `://` of a text. -/
def afterScheme? : List Char → Option (List Char)
  | [] => none
  | ':' :: '/' :: '/' :: rest => some rest
  | _ :: rest => afterScheme? rest

/-- The base which a text asks for. -/
def ofText (base : String) : ApiBase :=
  let cs := trimSlashes base.toList
  match afterScheme? cs with
  | some host => ⟨String.ofList cs, String.ofList host⟩
  | none => ⟨"https://" ++ String.ofList cs, String.ofList cs⟩

end ApiBase

end TailnetTargets
