/-
  What the program counts about itself.

  * `Endpoint`: an interface and the host on which it is reached;
  * `Event`: something that is counted or measured;
  * `Counter`: what is counted.  Every event but a measured latency adds to one counter
    (`Event.increment?`);
  * `Histogram`: measured latencies, by the bounds which they do not exceed;
  * `Registry`: the counters and histograms which some event touched, in the order in which they
    were touched first.  Counters wrap at 2^64.

  `Registry.count_record`: an event changes the counter to which it adds, by what it adds, and no
  other.
-/
import TailnetTargets.Binary64.Basic
import TailnetTargets.Duration.Basic

namespace TailnetTargets

/-- An interface and the host on which it is reached. -/
structure Endpoint where
  /-- the kind of interface -/
  api : String
  /-- the host -/
  host : String
deriving DecidableEq, Repr

/-- Something that is counted or measured. -/
inductive Event where
  /-- a request was sent -/
  | request (endpoint : Endpoint)
  /-- a request got no usable answer -/
  | requestError (endpoint : Endpoint)
  /-- the body of an answer did not have the wanted form -/
  | payloadError (endpoint : Endpoint)
  /-- a call of an interface took this long -/
  | latency (endpoint : Endpoint) (elapsed : Duration)
  /-- several sources were asked together -/
  | fanOut
  /-- one of several sources failed -/
  | fanOutError
  /-- a cache was asked -/
  | cacheRequest
  /-- a cache asked its source -/
  | cacheRefresh
  /-- a cache served earlier devices because its source failed -/
  | cacheStale
  /-- the public interface reported devices -/
  | devicesFound (tailnet : String) (count : Nat)
deriving DecidableEq, Repr

/-- What is counted. -/
inductive Counter where
  /-- requests to an interface -/
  | requests (endpoint : Endpoint)
  /-- requests without a usable answer -/
  | requestErrors (endpoint : Endpoint)
  /-- answers without the wanted form -/
  | payloadErrors (endpoint : Endpoint)
  /-- joint questions to several sources -/
  | fanOuts
  /-- failures of one of several sources -/
  | fanOutErrors
  /-- questions to a cache -/
  | cacheRequests
  /-- questions of a cache to its source -/
  | cacheRefreshes
  /-- answers of a cache with earlier devices because its source failed -/
  | cacheStale
  /-- devices which the public interface reported -/
  | devicesFound (tailnet : String)
deriving DecidableEq, Repr

/-- The counter to which an event adds, and how much. -/
def Event.increment? : Event → Option (Counter × Nat)
  | request endpoint => some (.requests endpoint, 1)
  | requestError endpoint => some (.requestErrors endpoint, 1)
  | payloadError endpoint => some (.payloadErrors endpoint, 1)
  | latency _ _ => none
  | fanOut => some (.fanOuts, 1)
  | fanOutError => some (.fanOutErrors, 1)
  | cacheRequest => some (.cacheRequests, 1)
  | cacheRefresh => some (.cacheRefreshes, 1)
  | cacheStale => some (.cacheStale, 1)
  | devicesFound tailnet count => some (.devicesFound tailnet, count)

/-! ## Latencies -/

/-- The milliseconds of a span, rounded as the steps of the computation are. -/
def Duration.toMillis (d : Duration) : Binary64 :=
  let seconds := (Binary64.ofNat d.seconds).add
    ((Binary64.ofNat d.subsecond).div (Binary64.ofNat nanosPerSecond))
  seconds.mul (Binary64.ofNat 1000)

/-- The bounds by which latencies are sorted, in milliseconds: each is 2.75 times the one before. -/
def latencyBounds : List Binary64 :=
  [10000, 27500, 75625, 207969, 571914, 1572764, 4325100, 11894025, 32708569, 89948566].map
    fun n => Binary64.ofRatio n 10000

/-- Measured latencies. -/
structure Histogram where
  /-- for each bound how many latencies do not exceed it -/
  buckets : List Nat
  /-- the number of latencies -/
  count : Nat
  /-- the sum of the latencies in milliseconds, in the order in which they were measured -/
  sum : Binary64
deriving DecidableEq, Repr

namespace Histogram

/-- No latencies. -/
def empty : Histogram := ⟨latencyBounds.map fun _ => 0, 0, Binary64.zero⟩

/-- One latency more. -/
def record (h : Histogram) (elapsed : Duration) : Histogram :=
  let millis := elapsed.toMillis
  { buckets := List.zipWith (fun bound n => if millis.le bound then n + 1 else n)
      latencyBounds h.buckets
    count := h.count + 1
    sum := h.sum.add millis }

end Histogram

/-! ## Registries -/

/-- Changes the value of a key, or adds it with the changed default. -/
def updateAt {κ α : Type} [DecidableEq κ] (key : κ) (default : α) (f : α → α) :
    List (κ × α) → List (κ × α)
  | [] => [(key, f default)]
  | (k, a) :: rest => if k = key then (k, f a) :: rest else (k, a) :: updateAt key default f rest

/-- The value of a key. -/
def valueAt? {κ α : Type} [DecidableEq κ] (key : κ) : List (κ × α) → Option α
  | [] => none
  | (k, a) :: rest => if k = key then some a else valueAt? key rest

/-- A change is seen at its key and at no other. -/
theorem valueAt?_updateAt {κ α : Type} [DecidableEq κ] (key k : κ) (default : α) (f : α → α)
    (entries : List (κ × α)) :
    valueAt? k (updateAt key default f entries) =
      if k = key then some (f ((valueAt? key entries).getD default))
      else valueAt? k entries := by
  induction entries with
  | nil =>
    by_cases h : k = key
    · simp [updateAt, valueAt?, h]
    · simp [updateAt, valueAt?, h, Ne.symm h]
  | cons e rest ih =>
    obtain ⟨k', a⟩ := e
    simp only [updateAt]
    split
    · next h => subst h; by_cases hk : k = k' <;> grind [valueAt?]
    · next h => simp only [valueAt?, ih]; grind

/-- The counters and histograms which some event touched. -/
structure Registry where
  /-- the counters -/
  counters : List (Counter × UInt64) := []
  /-- the latencies of each endpoint -/
  latencies : List (Endpoint × Histogram) := []
deriving DecidableEq, Repr

namespace Registry

instance : Inhabited Registry := ⟨{}⟩

/-- Adds to a counter. -/
def add (r : Registry) (counter : Counter) (n : Nat) : Registry :=
  { r with counters := updateAt counter 0 (· + UInt64.ofNat n) r.counters }

/-- Takes note of an event. -/
def record (r : Registry) : Event → Registry
  | .latency endpoint elapsed =>
    { r with latencies := updateAt endpoint Histogram.empty (·.record elapsed) r.latencies }
  | event =>
    match event.increment? with
    | some (counter, n) => r.add counter n
    | none => r

/-- The count of a counter, if some event touched it. -/
def count? (r : Registry) (counter : Counter) : Option UInt64 := valueAt? counter r.counters

/-- The latencies of an endpoint, if some were measured. -/
def histogram? (r : Registry) (endpoint : Endpoint) : Option Histogram :=
  valueAt? endpoint r.latencies

/-- An event changes the counter to which it adds, by what it adds, and no other. -/
theorem count_record (r : Registry) (event : Event) (counter : Counter) :
    (r.record event).count? counter =
      match event.increment? with
      | some (c, n) =>
        if counter = c then some ((r.count? c).getD 0 + UInt64.ofNat n) else r.count? counter
      | none => r.count? counter := by
  cases event <;> simp [record, add, count?, Event.increment?, valueAt?_updateAt]

end Registry

end TailnetTargets
