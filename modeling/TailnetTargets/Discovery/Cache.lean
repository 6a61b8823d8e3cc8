/-
  Caches: what is kept of a source which is asked no more often than once in an interval.

  * `Cache`: the devices which were fetched last, and when the source may be asked again;
  * `Cache.read` is what a caller finds: the devices, or the task to ask the source again;
  * `Cache.commit` keeps the devices of a successful refresh;
  * `Cache.interval` is how long devices are kept: the frequency, or thirty years when the clock
    cannot show the end of it;
  * `Failure.covered` is the failure of a refresh, covered by the devices which the caller found.
-/
import TailnetTargets.Discovery.Instant
import TailnetTargets.Failure

namespace TailnetTargets

/-- What is kept of a source. -/
structure Cache where
  /-- when the source may be asked again -/
  earliest : Instant := .start
  /-- the devices which were fetched last -/
  last : Option (List Device) := none
deriving DecidableEq

/-- What a caller of a cache finds. -/
inductive Cache.Reading where
  /-- devices which need no refresh -/
  | fresh (devices : List Device)
  /-- the source has to be asked; these were the last devices -/
  | expired (previous : Option (List Device))
deriving DecidableEq

namespace Cache

instance : Inhabited Cache := ⟨{}⟩

/-- What a caller finds. -/
def read (c : Cache) (now : Instant) : Reading :=
  if c.earliest ≤ now then .expired c.last else .fresh (c.last.getD [])

/-- The stand-in for an interval whose end the clock cannot show: thirty years. -/
def longest : Duration := .ofSeconds (30 * 365 * 24 * 60 * 60)

/-- How long devices are kept which are fetched at an instant. -/
def interval (now : Instant) (frequency : Duration) : Duration :=
  if (now.after? frequency).isSome then frequency else longest

/-- Keeps the devices of a successful refresh. -/
def commit (now : Instant) (frequency : Duration) (devices : List Device) : Cache :=
  ⟨now.advance (interval now frequency), some devices⟩

/-- A caller needs no refresh exactly until the interval since the last refresh has passed, and
    then finds the devices of that refresh. -/
theorem read_commit (committed now : Instant) (frequency : Duration) (devices : List Device) :
    (commit committed frequency devices).read now =
      if now < committed.advance (interval committed frequency) then .fresh devices
      else .expired (some devices) := by
  have h : ∀ a b : Instant, a ≤ b ↔ ¬ b < a := fun a b => Nat.not_lt.symm
  simp only [read, commit, h, Option.getD_some]
  split <;> simp_all

end Cache

/-- The failure of a refresh, covered by the devices which the caller found at its start. -/
def Failure.covered (previous : Option (List Device)) (f : Failure) : Failure :=
  match previous with
  | some devices => .stale devices f
  | none => f

end TailnetTargets
