/-
  The text in which a registry is published.

  * `Counter.family`, `Counter.labels`: the name under which a counter is published, and the labels
    which tell counters of one name apart;
  * `escapeLabel`: a line feed and a quote in the value of a label are escaped; a pair of
    backslashes and a single one are both written as a pair;
  * `Registry.families` groups the lines by name: what the name means, its kind, and its samples.
    Only names of which something was touched occur;
  * `Registry.text` is the whole text.
-/
import TailnetTargets.Binary64.Shortest
import TailnetTargets.Metrics.Registry

namespace TailnetTargets

/-- A name under which something is published. -/
structure Family where
  /-- the name -/
  name : String
  /-- what it means -/
  help : String
deriving DecidableEq

namespace Family

/-- Requests to an interface. -/
def requests : Family :=
  ⟨"tailscalesd_tailscale_api_requests",
    "Counter of requests made to Tailscale APIs. Labeled with the API host to which "
      ++ "requests are made."⟩

/-- Requests without a usable answer. -/
def requestErrors : Family :=
  ⟨"tailscalesd_tailscale_api_errors",
    "Counter of errors during requests to Tailscale APIs. Denominated by "
      ++ "tailscalesd_tailscale_api_requests."⟩

/-- Answers without the wanted form. -/
def payloadErrors : Family :=
  ⟨"tailscalesd_tailscale_api_payload_errors",
    "Counter of bad payload responses from Tailscale APIs. Denominated by "
      ++ "tailscalesd_tailscale_api_requests."⟩

/-- Latencies. -/
def latency : Family :=
  ⟨"tailscalesd_tailscale_api_request_latency_ms",
    "Histogram of API request latency measured in milliseconds. Bucketted "
      ++ "geometrically."⟩

/-- Joint questions to several sources. -/
def fanOuts : Family :=
  ⟨"tailscalesd_tailscale_multi_requests", "Counter of all requests to a multi-discoverer."⟩

/-- Failures of one of several sources. -/
def fanOutErrors : Family :=
  ⟨"tailscalesd_tailscale_multi_errors",
    "Counter of errors during requests to all multi-discoverer. Denominated by "
      ++ "tailscalesd_tailscale_multi_requests."⟩

/-- Questions to a cache. -/
def cacheRequests : Family :=
  ⟨"tailscalesd_tailscale_rate_limited_requests",
    "Counter of all requests to a rate limited discoverer."⟩

/-- Questions of a cache to its source. -/
def cacheRefreshes : Family :=
  ⟨"tailscalesd_tailscale_rate_limited_refreshes",
    "Counter of requests to a rate limited discoverer which result in a data "
      ++ "refresh."⟩

/-- Answers of a cache with earlier devices. -/
def cacheStale : Family :=
  ⟨"tailscalesd_tailscale_rate_limited_stale",
    "Counter of requests to a rate limited discoverer which result a return of stale "
      ++ "results."⟩

/-- Devices which the public interface reported. -/
def devicesFound : Family :=
  ⟨"tailscalesd_public_api_devices_found",
    "Counter of devices found using the public API, labeled with tailnet name."⟩

/-- The names of counters in the order in which they are published. -/
def counters : List Family :=
  [requests, requestErrors, payloadErrors, fanOuts, fanOutErrors, cacheRequests, cacheRefreshes,
    cacheStale, devicesFound]

end Family

/-- The labels which name an endpoint. -/
def Endpoint.labels (e : Endpoint) : List (String × String) := [("api", e.api), ("host", e.host)]

namespace Counter

/-- The name under which a counter is published. -/
def family : Counter → Family
  | requests _ => .requests
  | requestErrors _ => .requestErrors
  | payloadErrors _ => .payloadErrors
  | fanOuts => .fanOuts
  | fanOutErrors => .fanOutErrors
  | cacheRequests => .cacheRequests
  | cacheRefreshes => .cacheRefreshes
  | cacheStale => .cacheStale
  | devicesFound _ => .devicesFound

/-- The labels which tell counters of one name apart. -/
def labels : Counter → List (String × String)
  | requests e | requestErrors e | payloadErrors e => e.labels
  | devicesFound tailnet => [("tailnet", tailnet)]
  | _ => []

end Counter

/-! ## Lines -/

/-- The value of a label as it is published. -/
def escapeLabel : List Char → List Char
  | [] => []
  | '\\' :: '\\' :: rest => '\\' :: '\\' :: escapeLabel rest
  | '\\' :: rest => '\\' :: '\\' :: escapeLabel rest
  | '\n' :: rest => '\\' :: 'n' :: escapeLabel rest
  | '"' :: rest => '\\' :: '"' :: escapeLabel rest
  | c :: rest => c :: escapeLabel rest

/-- A label with its value. -/
def labelText (label : String × String) : String :=
  label.1 ++ "=\"" ++ String.ofList (escapeLabel label.2.toList) ++ "\""

/-- Labels in braces, if there are any. -/
def labelsText : List (String × String) → String
  | [] => ""
  | labels => "\x7b" ++ ",".intercalate (labels.map labelText) ++ "\x7d"

/-- A line with one value. -/
def sampleLine (name : String) (labels : List (String × String)) (value : String) : String :=
  name ++ labelsText labels ++ " " ++ value

/-- The lines which say what a name means and of which kind it is. -/
def Family.header (f : Family) (kind : String) : List String :=
  ["# HELP " ++ f.name ++ " " ++ f.help, "# TYPE " ++ f.name ++ " " ++ kind]

/-- The lines of the latencies of an endpoint. -/
def Histogram.lines (labels : List (String × String)) (h : Histogram) : List String :=
  let name := Family.latency.name
  let bucket (bound : String) (n : Nat) : String :=
    sampleLine (name ++ "_bucket") (labels ++ [("le", bound)]) (toString n)
  List.zipWith (fun bound n => bucket bound.text n) latencyBounds h.buckets
    ++ [bucket "+Inf" h.count, sampleLine (name ++ "_sum") labels h.sum.text,
      sampleLine (name ++ "_count") labels (toString h.count)]

namespace Registry

/-- The samples of the counters of one name. -/
def samples (r : Registry) (f : Family) : List String :=
  (r.counters.filter fun e => e.1.family = f).map fun e =>
    sampleLine f.name e.1.labels (toString e.2.toNat)

/-- The lines of the counters of one name. -/
def counterLines (r : Registry) (f : Family) : List String :=
  match r.samples f with
  | [] => []
  | samples => f.header "counter" ++ samples

/-- The lines of all latencies. -/
def latencyLines (r : Registry) : List String :=
  match r.latencies with
  | [] => []
  | latencies =>
    Family.latency.header "histogram" ++ latencies.flatMap fun e => e.2.lines e.1.labels

/-- The lines of a registry. -/
def lines (r : Registry) : List String := Family.counters.flatMap r.counterLines ++ r.latencyLines

/-- The text of a registry. -/
def text (r : Registry) : String := String.join (r.lines.map (· ++ "\n"))

end Registry

end TailnetTargets
