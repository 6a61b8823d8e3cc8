/-
  Sources of devices and the ways in which they are combined.

  * `Interface`: an interface which reports devices;
  * `Source`: a scripted source, an interface, a source behind a cache, or several sources which
    are asked together.  Scripts, caches and the access tokens of interfaces have numbers, under
    which a `World` keeps their state; nodes which share a number share that state;
  * `Source.fanOutSizes` are the numbers of members of all joint sources, the inner ones first.
-/
import TailnetTargets.Client.LocalApi
import TailnetTargets.Client.PublicApi
import TailnetTargets.Log

namespace TailnetTargets

/-- An interface which reports devices. -/
inductive Interface where
  /-- the interface of the local node, at a path of the file system -/
  | localApi (socket : String)
  /-- the public interface; access tokens are kept under a number -/
  | publicApi (id : Nat) (api : PublicApi)
deriving DecidableEq, Repr

/-- What is asked of an interface. -/
inductive Errand where
  /-- an access token -/
  | grant
  /-- the devices -/
  | devices
deriving DecidableEq, Repr

namespace Interface

/-- What the interface is counted under. -/
def endpoint : Interface → Endpoint
  | localApi _ => LocalApi.endpoint
  | publicApi _ api => api.endpoint

/-- The devices which a reply of the interface holds. -/
def devices : Interface → Reply → Except Failure (List Device)
  | localApi _ => LocalApi.devices
  | publicApi _ api => api.devices

/-- The failure of an errand which took too long. -/
def tooSlow : Interface → Errand → Failure
  | localApi _, _ => LocalApi.tooSlow
  | publicApi _ api, .grant => api.tooSlow api.tokenUrl
  | publicApi _ api, .devices => api.tooSlow api.devicesUrl

/-- What is counted when devices are found. -/
def discoveries : Interface → List Device → List Event
  | localApi _, _ => []
  | publicApi _ api, devices => [.devicesFound api.tailnet devices.length]

/-- What is told about the end of a call. -/
def lineOf : Interface → Except Failure (List Device) → LogLine
  | localApi _, .ok devices =>
    ⟨.debug, "tailscalesd::discovery::local", s!"Local API reported {devices.length} peers"⟩
  | localApi _, .error failure =>
    ⟨.warn, "tailscalesd::discovery::local",
      "Local API status request failed: " ++ failure.message⟩
  | publicApi _ api, .ok devices =>
    ⟨.debug, "tailscalesd::discovery::public",
      s!"Public API reported {devices.length} devices in tailnet {api.tailnet}"⟩
  | publicApi _ _, .error failure =>
    ⟨.warn, "tailscalesd::discovery::public",
      "Public API devices request failed: " ++ failure.message⟩

end Interface

/-- A source of devices.  Whatever is marked as metered is counted. -/
inductive Source where
  /-- a scripted source -/
  | scripted (id : Nat)
  /-- an interface -/
  | interface (asked : Interface) (metered : Bool)
  /-- a source which is asked no more often than once in an interval -/
  | cached (id : Nat) (frequency : Duration) (metered : Bool) (inner : Source)
  /-- several sources which are asked together -/
  | fanOut (metered : Bool) (members : List Source)

namespace Source

mutual

/-- The numbers of members of all joint sources, the inner ones first. -/
def fanOutSizes : Source → List Nat
  | scripted _ | interface .. => []
  | cached _ _ _ inner => inner.fanOutSizes
  | fanOut _ members => allFanOutSizes members ++ [members.length]

/-- The numbers of members of all joint sources in a list of sources. -/
def allFanOutSizes : List Source → List Nat
  | [] => []
  | source :: rest => source.fanOutSizes ++ allFanOutSizes rest

end

mutual

/-- A bound for the number of steps which a call of the source takes. -/
def work : Source → Nat
  | scripted _ => 2
  | interface .. => 4
  | cached _ _ _ inner => inner.work + 1
  | fanOut _ members => allWork members + 2

/-- The bound for several sources. -/
def allWork : List Source → Nat
  | [] => 0
  | source :: rest => source.work + allWork rest

end

end Source

end TailnetTargets
