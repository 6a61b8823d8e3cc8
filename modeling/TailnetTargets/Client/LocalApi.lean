/-
  The interface of the local node, which is reached at a path of the file system.

  * `LocalApi.request` is the only request: for the status;
  * `LocalApi.status` is the status which a reply holds, `LocalApi.devices` the devices in it.
-/
import TailnetTargets.Client.Request
import TailnetTargets.Client.Status

namespace TailnetTargets.LocalApi

/-- What the local interface is counted under. -/
def endpoint : Endpoint := ⟨"local", localHost⟩

/-- The host which the local interface wants to be called by. -/
def authority : String := "local-tailscaled.sock"

/-- The request for the status. -/
def request : Request where
  method := .get
  target := "/localapi/v0/status"
  host := authority
  isPlain := true

/-- How a missing reply is named. -/
def faults : TransportFaults := ⟨.notConnected, .connectionLost, .bodyLost⟩

/-- The failure of a call which took too long. -/
def tooSlow : Failure := .request localHost .timedOut

/-- The status which a reply holds. -/
def status (r : Reply) : Except Failure Status := r.decode localHost faults Status.decoder

/-- The devices which a reply holds. -/
def devices (r : Reply) : Except Failure (List Device) := (status r).map Status.devices

end TailnetTargets.LocalApi
