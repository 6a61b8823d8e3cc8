/-
  The settings of the daemon.

  * `Settings`: all of them, each with its default;
  * `Origin`: a source of devices which the settings ask for;
  * `Settings.origins`: the sources in the order in which they are asked: the local interface, the
    public one with a token, the public one with a client;
  * `SettingsError`: why there are no settings to work with, and `SettingsError.message` its text.
-/
import TailnetTargets.Client.Credentials
import TailnetTargets.Client.PublicAddress
import TailnetTargets.Duration.Basic

namespace TailnetTargets

/-! ## What is not set -/

/-- The address on which targets are served unless the settings say otherwise. -/
def defaultListen : String := "0.0.0.0:9242"

/-- The least time between two questions to one source unless the settings say otherwise. -/
def defaultPollLimit : Duration := .ofSeconds 300

/-- The path at which the local interface listens unless the settings say otherwise. -/
def defaultSocket : String := "/run/tailscale/tailscaled.sock"

/-- The tailnet of the credentials, which is that in question unless the settings name another. -/
def defaultTailnet : String := "-"

/-! ## Settings -/

/-- The settings of the daemon. -/
structure Settings where
  /-- the address on which targets are served -/
  listen : String := defaultListen
  /-- the least time between two questions to one source -/
  pollLimit : Duration := defaultPollLimit
  /-- whether targets may have IPv6 addresses -/
  includeIPv6 : Bool := false
  /-- whether the local interface is asked -/
  localApi : Bool := false
  /-- the path at which the local interface listens -/
  localSocket : String := defaultSocket
  /-- the tailnet whose devices are asked for; a hyphen stands for that of the credentials -/
  tailnet : String := defaultTailnet
  /-- the access token for the public interface -/
  token : Option String := none
  /-- the identifier of the client of the public interface -/
  clientId : Option String := none
  /-- the secret of that client -/
  clientSecret : Option String := none
  /-- the host of the public interface -/
  apiHost : String := publicHost
deriving DecidableEq, Repr

/-- A source of devices which the settings ask for. -/
inductive Origin where
  /-- the local interface at this path -/
  | localApi (socket : String)
  /-- the public interface at this host -/
  | publicApi (tailnet apiHost : String) (credentials : Credentials)
deriving DecidableEq, Repr

/-- Why there are no settings to work with. -/
inductive SettingsError where
  /-- the file cannot be read -/
  | unreadable (path : String)
  /-- the file does not hold settings -/
  | unparseable (path : String)
  /-- the settings ask for no source -/
  | noOrigin
deriving DecidableEq, Repr

namespace SettingsError

/-- The text of the reason. -/
def message : SettingsError → String
  | unreadable path => s!"Failed to read config file: {path}"
  | unparseable path => s!"Failed to parse config file: {path}"
  | noOrigin =>
    "Either --localapi, --token and --tailnet, or --client-id and --client-secret are required"

/-- Whether another reason lies behind the reason. -/
def hasCause : SettingsError → Bool
  | unreadable _ | unparseable _ => true
  | noOrigin => false

end SettingsError

namespace Settings

/-- A text which is there and not empty. -/
def present? (s : Option String) : Option String := s.filter fun s => !s.isEmpty

/-- The local interface, if it is asked for. -/
def localOrigins (s : Settings) : List Origin :=
  if s.localApi then [.localApi s.localSocket] else []

/-- The public interface with a token, if there is one. -/
def tokenOrigins (s : Settings) : List Origin :=
  match present? s.token with
  | some token => [.publicApi s.tailnet s.apiHost (.token token)]
  | none => []

/-- The public interface with a client, if its identifier and its secret are there. -/
def clientOrigins (s : Settings) : List Origin :=
  match present? s.clientId, present? s.clientSecret with
  | some id, some secret => [.publicApi s.tailnet s.apiHost (.client id secret)]
  | _, _ => []

/-- The sources which the settings ask for, in the order in which they are asked. -/
def origins (s : Settings) : Except SettingsError (List Origin) :=
  match s.localOrigins ++ s.tokenOrigins ++ s.clientOrigins with
  | [] => .error .noOrigin
  | origins => .ok origins

end Settings

end TailnetTargets
