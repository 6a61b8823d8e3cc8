/-
  What is read off the counters and histograms.

  * `Meter`: a counter, or the number of all measured latencies, and `Registry.reading`: what it
    shows;
  * `Event.amount`: what an event adds to the meters;
  * `Registry.Adds`: what some events add to the meters of a registry, but for counters which wrap.
    `foldl_record_adds`: it is the sum of what each of them adds;
  * `reading_of_adds`: a counter which has not gone down shows what was added.
-/
import Mathlib.Algebra.BigOperators.Group.List.Basic
import Mathlib.Algebra.Group.Pi.Basic
import Mathlib.Data.Nat.ModEq
import TailnetTargets.Metrics.Registry

namespace TailnetTargets

/-- A counter of joint sources or of caches, or the number of all measured latencies. -/
inductive Meter where
  | fanOuts
  | fanOutErrors
  | cacheRequests
  | cacheRefreshes
  | cacheStale
  | latencies
deriving DecidableEq

/-- The counter which a meter shows. -/
def Meter.counter? : Meter → Option Counter
  | fanOuts => some .fanOuts
  | fanOutErrors => some .fanOutErrors
  | cacheRequests => some .cacheRequests
  | cacheRefreshes => some .cacheRefreshes
  | cacheStale => some .cacheStale
  | latencies => none

/-- The meter to which an event adds one. -/
def Event.meter? : Event → Option Meter
  | fanOut => some .fanOuts
  | fanOutError => some .fanOutErrors
  | cacheRequest => some .cacheRequests
  | cacheRefresh => some .cacheRefreshes
  | cacheStale => some .cacheStale
  | latency _ _ => some .latencies
  | _ => none

/-- One at a meter, and nothing at the others. -/
def Meter.one (m : Meter) : Meter → Nat := fun n => if n = m then 1 else 0

/-- What an event adds to the meters. -/
def Event.amount (e : Event) : Meter → Nat := (e.meter?.map Meter.one).getD 0

namespace Registry

/-- How many latencies were measured at all endpoints. -/
def measurements (r : Registry) : Nat := (r.latencies.map (·.2.count)).sum

/-- What a meter shows. -/
def reading (r : Registry) (m : Meter) : Nat :=
  match m.counter? with
  | some c => ((r.count? c).getD 0).toNat
  | none => r.measurements

/-- How high a counter can count. -/
def limit : Nat := 18446744073709551616

/-- What was added to the meters of a registry, but for counters which wrap. -/
structure Adds (r r' : Registry) (amount : Meter → Nat) : Prop where
  modEq : ∀ m, r'.reading m ≡ r.reading m + amount m [MOD limit]
  latencies : r'.reading .latencies = r.reading .latencies + amount .latencies

theorem measurements_update (endpoint : Endpoint) (elapsed : Duration)
    (latencies : List (Endpoint × Histogram)) :
    ((updateAt endpoint Histogram.empty (·.record elapsed) latencies).map (·.2.count)).sum =
      (latencies.map (·.2.count)).sum + 1 := by
  induction latencies with
  | nil => rfl
  | cons e rest ih =>
    obtain ⟨k, h⟩ := e
    rw [updateAt]
    split
    · simp only [List.map_cons, List.sum_cons, Histogram.record]
      omega
    · simp only [List.map_cons, List.sum_cons, ih]
      omega

section
variable {r r' r'' : Registry} {amount amount' : Meter → Nat}

theorem Adds.refl (r : Registry) : r.Adds r 0 := ⟨fun _ => rfl, rfl⟩

theorem Adds.trans (h : r.Adds r' amount) (h' : r'.Adds r'' amount') :
    r.Adds r'' (amount + amount') where
  modEq m := by
    have hsum := (h'.modEq m).trans ((h.modEq m).add_right (amount' m))
    rwa [Nat.add_assoc] at hsum
  latencies := by
    rw [h'.latencies, h.latencies, Nat.add_assoc]
    rfl

/-- An event adds one to the counter which a meter shows, or nothing. -/
theorem amount_cases (e : Event) {m : Meter} {c : Counter} (hc : m.counter? = some c) :
    (e.increment? = some (c, 1) ∧ e.amount m = 1) ∨
      ((∀ c' n, e.increment? = some (c', n) → c ≠ c') ∧ e.amount m = 0) := by
  cases m <;> cases hc <;> cases e <;>
    simp [Event.increment?, Event.amount, Event.meter?, Meter.one]

theorem count?_record_of_increment (r : Registry) {e : Event} {c : Counter}
    (h : e.increment? = some (c, 1)) :
    ((r.record e).count? c).getD 0 = (r.count? c).getD 0 + 1 := by
  rw [count_record, h]
  simp

theorem count?_record_of_ne (r : Registry) {e : Event} {c : Counter}
    (h : ∀ c' n, e.increment? = some (c', n) → c ≠ c') :
    (r.record e).count? c = r.count? c := by
  rw [count_record]
  split
  · next c' n hi => rw [if_neg (h c' n hi)]
  · rfl

theorem measurements_record (r : Registry) (e : Event) :
    (r.record e).measurements = r.measurements + e.amount .latencies := by
  cases e with
  | latency endpoint elapsed => exact measurements_update endpoint elapsed r.latencies
  | _ => rfl

theorem record_adds (r : Registry) (e : Event) : r.Adds (r.record e) e.amount where
  modEq m := by
    unfold reading
    cases hc : m.counter? with
    | some c =>
      rcases amount_cases e hc with ⟨hi, hone⟩ | ⟨hne, hzero⟩
      · simp only [count?_record_of_increment r hi, hone, UInt64.toNat_add]
        exact Nat.mod_modEq _ _
      · simp only [count?_record_of_ne r hne, hzero]
        rfl
    | none =>
      obtain rfl : m = .latencies := by cases m <;> first | rfl | cases hc
      simp only [measurements_record]
      rfl
  latencies := measurements_record r e

/-- What several events add is the sum of what each of them adds. -/
theorem foldl_record_adds (r : Registry) (events : List Event) :
    r.Adds (events.foldl Registry.record r) (events.map Event.amount).sum := by
  induction events generalizing r with
  | nil => exact .refl r
  | cons e events ih => exact (r.record_adds e).trans (ih (r.record e))

theorem reading_lt (r : Registry) {m : Meter} (hm : m ≠ .latencies) : r.reading m < limit := by
  cases m <;> first | exact UInt64.toNat_lt _ | contradiction

/-- A meter which has not gone down shows what was added, if that is not too much. -/
theorem reading_of_adds (h : r.Adds r' amount) {m : Meter}
    (hle : m ≠ .latencies → r.reading m ≤ r'.reading m) (hlt : amount m < limit) :
    r'.reading m = r.reading m + amount m := by
  by_cases hm : m = .latencies
  · subst hm
    exact h.latencies
  · have hup := hle hm
    have hmod := h.modEq m
    have hr := r.reading_lt hm
    have hr' := r'.reading_lt hm
    unfold Nat.ModEq limit at *
    omega

end

end Registry

end TailnetTargets
