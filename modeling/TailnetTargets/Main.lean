/-
  The programs.

  Without a first word `peers` the daemon is run, which serves the targets of all its sources; with
  it the program which lists the peers of the local node.

  Everything that is decided is decided by `Daemon`, `PeerList`, `Service` and `World`.  What is
  left for this module is to look at the environment, the file with settings, the clock and the
  network, and to write lines.  Visits are dealt with one after the other.  Requests are sent in the
  clear only, and over the web only: where more is needed, nothing can be reached.
-/
import Std.Async.DNS
import Std.Async.Signal
import Std.Async.TCP
import Std.Async.Timer
import TailnetTargets.Daemon
import TailnetTargets.Discovery.Schedule
import TailnetTargets.Message.Reply
import TailnetTargets.Message.Visit
import TailnetTargets.PeerList

namespace TailnetTargets.Program

open Std.Async Std.Net

/-! ## Surroundings -/

/-- The variables of the environment which are set, of those with these names. -/
def variablesOf (names : List String) : IO (List (String × String)) :=
  names.filterMapM fun name => do return (← IO.getEnv name).map fun value => (name, value)

/-- Writes the lines which are wanted. -/
def writeLines (filter : LogFilter) (lines : List LogLine) : IO Unit := do
  (filter.select lines).forM fun line =>
    IO.println s!"{line.level.text} {line.subject}: {line.message}"
  (← IO.getStdout).flush

/-- Writes what a run leaves behind. -/
def conclude (version : String) (options : List String) (filter : LogFilter) (r : Report) :
    IO UInt32 := do
  match r with
  | .refused .version => IO.print version
  | .refused .help => options.forM fun name => IO.println s!"--{name}"
  | .refused _ => IO.eprintln "error: the command line is not understood; try --help"
  | .ended lines complaint =>
    writeLines filter lines
    complaint.forM fun c => IO.eprintln s!"Error: {c}"
  return r.exitCode.toUInt32

/-! ## Addresses -/

/-- A host and the number of the gate at which it is reached, which may be left out. -/
def splitGate? (standard : Nat) (address : String) : Option (String × Nat) :=
  let reversed := address.toList.reverse
  let digits := (reversed.takeWhile Char.isDigit).reverse
  let bare (cs : List Char) := String.ofList (cs.filter fun c => c ≠ '[' && c ≠ ']')
  match reversed.dropWhile Char.isDigit, Text.number? 10 digits with
  | ':' :: host, some n => if n < Nat.pow 2 16 then some (bare host.reverse, n) else none
  | _, _ => some (bare address.toList, standard)

/-- Where a host is reached. -/
def socketAddress (ip : IPAddr) (gate : Nat) : SocketAddress :=
  match ip with
  | .v4 ip => .v4 ⟨ip, gate.toUInt16⟩
  | .v6 ip => .v6 ⟨ip, gate.toUInt16⟩

/-- Where an address is reached, if it is known. -/
def resolve (standard : Nat) (address : String) : Async (Option SocketAddress) := do
  match splitGate? standard address with
  | none => return none
  | some (host, gate) =>
    let found ← try DNS.getAddrInfo host "" none catch _ => pure #[]
    return found[0]?.map fun ip => socketAddress ip gate

/-! ## Requests -/

/-- Everything that comes until a connection ends. -/
partial def readAll (socket : TCP.Socket.Client) (bytes : ByteArray) : Async ByteArray := do
  match ← socket.recv? 65536 with
  | some more => readAll socket (bytes ++ more)
  | none => return bytes

/-- What comes back for a request which is sent in the clear. -/
def exchange (r : Request) (address : SocketAddress) : Async Reply := do
  let socket ← TCP.Socket.Client.mk
  let connected ← try socket.connect address; pure true catch _ => pure false
  if !connected then return .refused
  try
    socket.send r.bytes.toByteArray
    return .ofBytes (← readAll socket .empty).toList
  catch _ => return .dropped

/-- What comes back for a request. -/
def request (s : Sent) : Async Reply := do
  match s.asked, s.request.isPlain with
  | .publicApi _ _, true =>
    match ← resolve 80 s.request.host with
    | some address => exchange s.request address
    | none => return .refused
  | _, _ => return .refused

/-- What comes back for a request in time. -/
def requestInTime (s : Sent) : Async (Option Reply) :=
  Async.race (do return some (← request s)) do
    let timer ← Sleep.mk (.ofNat (requestTimeout.seconds * 1000 + 1))
    timer.wait
    return none

/-! ## The daemon -/

/-- A daemon at work. -/
structure Session where
  /-- the world -/
  world : World := {}
  /-- the number of requests which were dealt with -/
  delivered : Nat := 0
  /-- the reading of the clock at which the world stands -/
  reading : Nat

/-- Brings the clocks of a world up to the present. -/
def present (s : Session) : IO Session := do
  let now ← IO.monoNanosNow
  let passed : Duration := ⟨now - s.reading⟩
  return { s with world := s.world.after [.advance passed, .age passed], reading := now }

/-- Goes on until nothing is left to be done. -/
partial def proceed (s : Session) : Async Session := do
  let s ← present s
  let s := { s with world := s.world.settleAll }
  match s.world.sent[s.delivered]? with
  | none => return s
  | some sent =>
    let reply ← requestInTime sent
    let s ← present s
    let world := match reply with
      | some r => s.world.step (.reply sent.task r)
      | none => s.world
    proceed { s with world, delivered := s.delivered + 1 }

/-- Deals with a visit. -/
def answer (service : Service) (filter : LogFilter) (v : Visit) (s : Session) :
    Async (Session × Option Response) := do
  match Route.ofVisit v with
  | .error r => return (s, some (v.trim r))
  | .ok .metrics => return (s, some (v.trim (metricsResponse s.world.registry)))
  | .ok .targets =>
    let task := s.world.tasks.length
    let s ← proceed { s with world := s.world.step (.serve service.source) }
    let outcome := (s.world.outcome? task).getD (.panicked "")
    writeLines filter (s.world.journal ++ Service.lines outcome)
    let response := (service.targetsResponse outcome).toOption.map v.trim
    let world := s.world.forget
    return ({ s with world, delivered := world.sent.length }, response)

/-- The head of what a visitor sends. -/
partial def readHead (socket : TCP.Socket.Client) (bytes : ByteArray) : Async ByteArray := do
  if (Message.split? bytes.toList).isSome then return bytes
  match ← socket.recv? 65536 with
  | some more => readHead socket (bytes ++ more)
  | none => return bytes

/-- Lets a visitor in. -/
def receive (service : Service) (filter : LogFilter) (socket : TCP.Socket.Client) (s : Session) :
    Async Session := do
  match Visit.ofBytes? (← readHead socket .empty).toList with
  | none => return s
  | some v =>
    let (s, response) ← answer service filter v s
    if let some r := response then
      try socket.send r.bytes.toByteArray; socket.shutdown catch _ => pure ()
    return s

/-- Lets visitors in until the program is interrupted. -/
partial def serve (service : Service) (filter : LogFilter) (server : TCP.Socket.Server)
    (interrupt : Signal.Waiter) (s : Session) : Async Unit := do
  let visitor ← Selectable.one #[
    .case server.acceptSelector fun socket => pure (some socket),
    .case interrupt.selector fun _ => pure none]
  match visitor with
  | none => return
  | some socket =>
    let s ← try receive service filter socket s catch _ => pure s
    serve service filter server interrupt s

/-- Listens at an address, if that is possible. -/
def listen (address : String) : Async (Option TCP.Socket.Server) := do
  match ← resolve 0 address with
  | none => return none
  | some place =>
    let server ← TCP.Socket.Server.mk
    try
      server.bind place
      server.listen 128
      return some server
    catch _ => return none

/-- The file with settings which the options name. -/
def settingsFile (words : List String) (vars : List (String × String)) :
    IO (String → Option ByteArray) := do
  match (Options.read words vars).toOption.bind (·.config) with
  | none => return fun _ => none
  | some path =>
    let content ← try some <$> IO.FS.readBinFile path catch _ => pure none
    return fun _ => content

/-- Runs the daemon. -/
def runDaemon (words : List String) : IO UInt32 := do
  let vars ← variablesOf (logVariable :: Options.table.map (·.variableName))
  let filter := logFilter vars Daemon.standardFilter
  let names := Options.table.map (·.name)
  match Daemon.prepare (← settingsFile words vars) words vars with
  | .error r => conclude Daemon.version names filter r
  | .ok ready =>
    writeLines filter ready.lines
    let address := ready.settings.listen
    match ← (listen address).block with
    | none =>
      conclude Daemon.version names filter (.ended [] (some (Daemon.listenComplaint address)))
    | some server =>
      writeLines filter [Daemon.servingLine address]
      let interrupt ← Signal.Waiter.mk .sigint true
      let _ ← interrupt.wait
      let reading ← IO.monoNanosNow
      (serve ready.service filter server interrupt { reading }).block
      conclude Daemon.version names filter (.ended Daemon.closingLines none)

/-! ## The list of peers -/

/-- Runs the program which lists the peers of the local node. -/
def runPeerList (words : List String) : IO UInt32 := do
  let vars ← variablesOf (logVariable :: PeerList.Options.table.map (·.variableName))
  let filter := logFilter vars PeerList.standardFilter
  let reply ← match PeerList.asked? words vars with
    | some path => some <$> (request ⟨0, .localApi path, LocalApi.request⟩).block
    | none => pure none
  conclude PeerList.version (PeerList.Options.table.map (·.name)) filter
    (PeerList.report (fun _ => reply) words vars)

end TailnetTargets.Program

/-- Runs the program which the first word names. -/
def main (words : List String) : IO UInt32 :=
  match words with
  | "peers" :: rest => TailnetTargets.Program.runPeerList rest
  | words => TailnetTargets.Program.runDaemon words
