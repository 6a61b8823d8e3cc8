/-
  Scopes: what can be canceled together.

  * `Scope`: the way from an outermost scope to a scope within it;
  * `Scope.shutdown` is the scope of everything that is served;
  * `Scope.within` is a scope inside a scope, `Scope.contains` says whether one lies in the other;
  * `Scope.isCanceled`: a scope is canceled when it lies in one that was.
-/

namespace TailnetTargets

/-- The way from an outermost scope to a scope within it. -/
structure Scope where
  /-- the steps of the way, the outermost first -/
  path : List Nat
deriving DecidableEq, Repr

namespace Scope

/-- The scope of everything that is served. -/
def shutdown : Scope := ⟨[0]⟩

/-- The scope of a call from outside, which lies in no other. -/
def ofCall (n : Nat) : Scope := ⟨[n + 1]⟩

/-- A scope inside a scope. -/
def within (s : Scope) (n : Nat) : Scope := ⟨s.path ++ [n + 1]⟩

/-- Whether a scope lies in this one or is this one. -/
def contains (s inner : Scope) : Bool := s.path.isPrefixOf inner.path

/-- Whether a scope lies in one that was canceled. -/
def isCanceled (canceled : List Scope) (s : Scope) : Bool := canceled.any (·.contains s)

/-- Whatever lies in a canceled scope is canceled. -/
theorem isCanceled_within {canceled : List Scope} {s : Scope} (n : Nat)
    (h : s.isCanceled canceled) : (s.within n).isCanceled canceled := by
  simp only [isCanceled, List.any_eq_true, contains, List.isPrefixOf_iff_prefix, within] at h ⊢
  obtain ⟨c, hc, hp⟩ := h
  exact ⟨c, hc, hp.trans (List.prefix_append _ _)⟩

/-- Scopes in which another one does not lie do not cancel it. -/
theorem isCanceled_append_of_not_contains {closed canceled : List Scope} {s : Scope}
    (h : ∀ c ∈ closed, ¬ c.contains s) :
    s.isCanceled (closed ++ canceled) = s.isCanceled canceled := by
  rw [isCanceled, List.any_append, List.any_eq_false.2 h, Bool.false_or]
  rfl

end Scope

end TailnetTargets
