/-
  The options of the daemon's command line.

  * `Options`: what the command line and the environment say;
  * `Options.table`: the options with their variables;
  * `Options.read` reads a command line and an environment;
  * `Settings.override`: settings with what the options say in place of what they were.  A flag adds
    to what the settings say and takes nothing away;
  * `Settings.ofOptions` reads the file which the options name, if they name one, and overrides it.
-/
import TailnetTargets.Settings.CommandLine
import TailnetTargets.Settings.File

namespace TailnetTargets

/-- What the command line and the environment say. -/
structure Options where
  /-- the path of a file with settings -/
  config : Option String := none
  /-- the address on which targets are served -/
  address : Option String := none
  /-- the least time between two questions to one source -/
  poll : Option Duration := none
  /-- whether targets may have IPv6 addresses -/
  ipv6 : Bool := false
  /-- whether the local interface is asked -/
  localApi : Bool := false
  /-- the path at which the local interface listens -/
  localSocket : Option String := none
  /-- the tailnet whose devices are asked for -/
  tailnet : Option String := none
  /-- the access token for the public interface -/
  token : Option String := none
  /-- the identifier of the client of the public interface -/
  clientId : Option String := none
  /-- the secret of that client -/
  clientSecret : Option String := none
  /-- the host of the public interface -/
  apiHost : Option String := none
deriving DecidableEq, Repr

namespace Options

/-- The options with their variables. -/
def table : List (CommandOption Options) :=
  [.path "config" "TAILSCALESD_CONFIG" fun v o => { o with config := some v },
   .text "address" "LISTEN" fun v o => { o with address := some v },
   .duration "poll" "TAILSCALE_API_POLL_LIMIT" fun v o => { o with poll := some v },
   .flag "ipv6" "EXPOSE_IPV6" fun v o => { o with ipv6 := v },
   .flag "localapi" "TAILSCALE_USE_LOCAL_API" fun v o => { o with localApi := v },
   .path "localapi-socket" "TAILSCALE_LOCAL_API_SOCKET" fun v o => { o with localSocket := some v },
   .text "tailnet" "TAILNET" fun v o => { o with tailnet := some v },
   .text "token" "TAILSCALE_API_TOKEN" fun v o => { o with token := some v },
   .text "client-id" "TAILSCALE_CLIENT_ID" fun v o => { o with clientId := some v },
   .text "client-secret" "TAILSCALE_CLIENT_SECRET" fun v o => { o with clientSecret := some v },
   .text "api-host" "TAILSCALE_API_HOST" fun v o => { o with apiHost := some v }]

/-- Reads a command line and an environment. -/
def read (words : List String) (vars : List (String × String)) : Except UsageError Options :=
  CommandOption.readAll table {} words vars

end Options

namespace Settings

/-- The settings with what the options say in place of what they were. -/
def override (s : Settings) (o : Options) : Settings where
  listen := o.address.getD s.listen
  pollLimit := o.poll.getD s.pollLimit
  includeIPv6 := s.includeIPv6 || o.ipv6
  localApi := s.localApi || o.localApi
  localSocket := o.localSocket.getD s.localSocket
  tailnet := o.tailnet.getD s.tailnet
  token := o.token.or s.token
  clientId := o.clientId.or s.clientId
  clientSecret := o.clientSecret.or s.clientSecret
  apiHost := o.apiHost.getD s.apiHost

/-- The settings of the file which the options name, overridden by the options.  A file at a path is
    `none` if it cannot be read. -/
def ofOptions (files : String → Option ByteArray) (o : Options) : Except SettingsError Settings :=
  match o.config with
  | none => .ok (override {} o)
  | some path => (ofFile path (files path)).map (override · o)

end Settings

end TailnetTargets
