/-
  Access tokens which are kept for later requests.

  * `AccessToken`: a token and the instant until which it may be used;
  * `TokenDesk`: the token which is kept, and those who wait in line to look at it.  Whoever is
    first in line may take the token or fetch a new one, and holds the others up meanwhile;
  * `TokenDesk.usable?` is the token which may be used at an instant;
  * `TokenDesk.keep` keeps a token which was given out, unless the clock cannot show its end.
-/
import TailnetTargets.Client.PublicApi
import TailnetTargets.Discovery.Instant
import TailnetTargets.Log

namespace TailnetTargets

/-- A token and the instant until which it may be used. -/
structure AccessToken where
  /-- the token -/
  token : String
  /-- the first instant at which it may not be used any more -/
  expires : Instant
deriving DecidableEq, Repr

/-- The token of an interface and those who want it. -/
structure TokenDesk where
  /-- the token which is kept -/
  kept : Option AccessToken := none
  /-- the tasks which want a token, in the order in which they came -/
  line : List Nat := []
deriving DecidableEq, Repr

namespace TokenDesk

instance : Inhabited TokenDesk := ⟨{}⟩

/-- The token which may be used at an instant. -/
def usable? (d : TokenDesk) (now : Instant) : Option String :=
  (d.kept.filter fun t => now < t.expires).map (·.token)

/-- The token of a grant, with its end, if the clock can show it. -/
def tokenOf? (now : Instant) (g : Grant) : Option AccessToken :=
  (now.after? g.lifetime).map fun expires => ⟨g.token, expires⟩

/-- Keeps a token which was given out. -/
def keep (d : TokenDesk) (now : Instant) (g : Grant) : TokenDesk :=
  { d with kept := tokenOf? now g }

/-- What is told about a token which was given out. -/
def lineOf (now : Instant) (g : Grant) : LogLine :=
  let lifetime := if g.lifetime = .zero then "0ns" else s!"{g.lifetime.seconds}s"
  let kept := (tokenOf? now g).isSome
  ⟨.debug, "tailscalesd::discovery::public",
    s!"Obtained OAuth access token valid for {lifetime}, cached: {kept}"⟩

/-- A task comes and waits at the end of the line. -/
def join (d : TokenDesk) (task : Nat) : TokenDesk := { d with line := d.line ++ [task] }

/-- A task goes. -/
def leave (d : TokenDesk) (task : Nat) : TokenDesk := { d with line := d.line.erase task }

/-- Whether it is a task's turn. -/
def isTurnOf (d : TokenDesk) (task : Nat) : Bool := d.line.head? = some task

/-- A token which was kept may be used before its end only. -/
theorem usable?_keep (d : TokenDesk) (now later : Instant) (g : Grant) :
    (d.keep now g).usable? later =
      if later < now.advance g.lifetime ∧ now.advance g.lifetime < .horizon then some g.token
      else none := by
  simp only [usable?, keep, tokenOf?, Instant.after?]
  generalize Instant.horizon = horizon
  generalize now.advance g.lifetime = expires
  split
  · by_cases h : later < expires <;> simp_all [Option.filter]
  · simp_all [Option.filter]

end TokenDesk

end TailnetTargets
