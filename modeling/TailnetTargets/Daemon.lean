/-
  The daemon, which serves the targets of every source that its settings ask for.

  * `Daemon.source` asks all sources together, each behind a cache of its own;
  * `Daemon.service` serves it, with IPv6 targets only if the settings want them;
  * `Daemon.prepare` gets ready to serve: it reads the command line, the environment and the file
    with settings, and tells what it found;
  * `Daemon.report` is what a run leaves behind, which ends when it is interrupted.
-/
import TailnetTargets.Duration.Printer
import TailnetTargets.Report
import TailnetTargets.Service
import TailnetTargets.Settings.Options

namespace TailnetTargets.Daemon

/-- The text which tells programs apart. -/
def version : String := "tailscalesd 0.1.0\n"

/-- What the daemon's own lines belong to. -/
def subject : String := "tailscalesd"

/-- The lines which are wanted unless the environment asks for others. -/
def standardFilter : LogFilter := ⟨[⟨subject, LogLevel.info.rank, false⟩]⟩

/-! ## What is served -/

/-- The interface which settings ask for.  Every one has a number. -/
def interface (id : Nat) : Origin → Interface
  | .localApi socket => .localApi socket
  | .publicApi tailnet apiHost credentials =>
    .publicApi id ((PublicApi.standard tailnet credentials).withBase apiHost)

/-- All sources together, each behind a cache of its own. -/
def source (pollLimit : Duration) (origins : List Origin) : Source :=
  .fanOut true (origins.zipIdx.map fun entry =>
    .cached entry.2 pollLimit true (.interface (interface entry.2 entry.1) true))

/-- The filters which settings ask for. -/
def filters (s : Settings) : List Filter := if s.includeIPv6 then [] else [.ipv6]

/-- What is served. -/
def service (s : Settings) (origins : List Origin) : Service :=
  .ofSource (source s.pollLimit origins) (filters s)

/-! ## What is told -/

/-- A line of the daemon's own. -/
def line (message : String) : LogLine := ⟨.info, subject, message⟩

/-- What is told about a source. -/
def originLine : Origin → LogLine
  | .localApi socket => line s!"Using local API at {socket}"
  | .publicApi tailnet apiHost credentials =>
    line s!"Using public API at {apiHost} for tailnet {tailnet} with {credentials.describe}"

/-- What is told about all sources. -/
def pollLine (pollLimit : Duration) (count : Nat) : LogLine :=
  line s!"Polling {count} source(s) no more than every {pollLimit.text}"

/-- What is told once visitors may come. -/
def servingLine (listen : String) : LogLine :=
  line s!"Serving Tailscale service discovery on {listen}"

/-- What is told at the end. -/
def closingLines : List LogLine := [line "Shutdown signal received", line "Shutdown complete"]

/-- The complaint when no visitor can come. -/
def listenComplaint (listen : String) : String := s!"Failed to bind to {listen}"

/-! ## Runs -/

/-- A daemon which is ready to serve. -/
structure Ready where
  /-- its settings -/
  settings : Settings
  /-- its sources -/
  origins : List Origin

namespace Ready

/-- What is told before visitors may come. -/
def lines (r : Ready) : List LogLine :=
  r.origins.map originLine ++ [pollLine r.settings.pollLimit r.origins.length]

/-- What is served. -/
def service (r : Ready) : Service := Daemon.service r.settings r.origins

end Ready

/-- Gets ready to serve, or tells why that is not possible. -/
def prepare (files : String → Option ByteArray) (words : List String)
    (vars : List (String × String)) : Except Report Ready :=
  match Options.read words vars with
  | .error cause => .error (.refused cause)
  | .ok options =>
    match Settings.ofOptions files options with
    | .error cause => .error (.ended [] (some cause.message))
    | .ok settings =>
      match settings.origins with
      | .error cause => .error (.ended [] (some cause.message))
      | .ok origins => .ok ⟨settings, origins⟩

/-- What a run leaves behind.  It ends at once if visitors cannot come to the address, and else when
    it is interrupted. -/
def report (files : String → Option ByteArray) (canListen : String → Bool) (words : List String)
    (vars : List (String × String)) : Report :=
  match prepare files words vars with
  | .error r => r
  | .ok ready =>
    let listen := ready.settings.listen
    if canListen listen then .ended (ready.lines ++ [servingLine listen] ++ closingLines) none
    else .ended ready.lines (some (listenComplaint listen))

end TailnetTargets.Daemon
