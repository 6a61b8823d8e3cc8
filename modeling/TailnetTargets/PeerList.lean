/-
  The program which lists the peers of the local node.

  * `PeerList.Options`: what its command line and the environment say;
  * `PeerList.line` tells about a peer, `PeerList.lines` about all that a status holds;
  * `PeerList.report` is what a run leaves behind, by what the local interface replied.
-/
import TailnetTargets.Client.LocalApi
import TailnetTargets.Report
import TailnetTargets.Settings.Basic

namespace TailnetTargets.PeerList

/-- The text which tells programs apart. -/
def version : String := "lapidbg 0.1.0\n"

/-- What the lines of the program belong to. -/
def subject : String := "lapidbg"

/-- The lines which are wanted unless the environment asks for others. -/
def standardFilter : LogFilter := ⟨[⟨"", LogLevel.info.rank, false⟩]⟩

/-- What the command line and the environment say. -/
structure Options where
  /-- the path at which the local interface listens -/
  socket : String := defaultSocket
deriving DecidableEq, Repr

namespace Options

/-- The options with their variables. -/
def table : List (CommandOption Options) :=
  [.path "socket" "TAILSCALE_LOCAL_API_SOCKET" fun v o => { o with socket := v }]

/-- Reads a command line and an environment. -/
def read (words : List String) (vars : List (String × String)) : Except UsageError Options :=
  CommandOption.readAll table {} words vars

end Options

/-- A line of the program. -/
def line (message : String) : LogLine := ⟨.info, subject, message⟩

/-- Texts in brackets, with commas between them. -/
def bracketed (texts : List String) : String := "[" ++ ", ".intercalate texts ++ "]"

/-- What is known about the connection of a peer. -/
def onlineText : Option Bool → String
  | none => "None"
  | some true => "Some(true)"
  | some false => "Some(false)"

/-- What is told about a peer. -/
def peerLine (key : String) (p : Peer) : LogLine :=
  let addresses := bracketed ((p.addresses.getD []).map Address.text)
  let tags := bracketed ((p.tags.getD []).map Text.quoted)
  let online := onlineText p.online
  line (s!"Found peer {p.hostName} ({key}): id={p.id} os={p.os} addresses={addresses}"
    ++ s!" tags={tags} online={online}")

/-- What is told about a status: the name of the tailnet, if there is one, and the peers in the
    order of their keys. -/
def lines (s : Status) : List LogLine :=
  (s.tailnet.map fun name => line s!"Tailnet {name}").toList
    ++ s.peerList.map fun entry => peerLine entry.1 entry.2

/-- The complaint when there is no status. -/
def statusComplaint (socket : String) : String :=
  s!"Failed getting status from Tailscale local API at {socket}"

/-- The path which a run asks, if it follows its command line. -/
def asked? (words : List String) (vars : List (String × String)) : Option String :=
  ((Options.read words vars).toOption).map (·.socket)

/-- What a run leaves behind, by what comes back from the path that is asked, if anything does. -/
def report (reply : String → Option Reply) (words : List String)
    (vars : List (String × String)) : Report :=
  match Options.read words vars with
  | .error cause => .refused cause
  | .ok options =>
    match (reply options.socket).map LocalApi.status with
    | some (.ok status) => .ended (lines status) none
    | _ => .ended [] (some (statusComplaint options.socket))

end TailnetTargets.PeerList
