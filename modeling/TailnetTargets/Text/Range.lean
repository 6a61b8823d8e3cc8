/-
  Ranges of code points: the form of the tables of the character standard.

  * `Range.contains` says whether a character lies between the two ends, both included;
  * `Char.isIn` says whether a character lies in one of several ranges.
-/

namespace TailnetTargets.Text

/-- A range of code points, both ends included. -/
structure Range where
  /-- the first code point -/
  first : Nat
  /-- the last code point -/
  last : Nat

/-- Whether a character lies in the range. -/
def Range.contains (r : Range) (c : Char) : Bool :=
  r.first ≤ c.toNat && c.toNat ≤ r.last

/-- Whether a character lies in one of the ranges. -/
def isIn (ranges : List Range) (c : Char) : Bool :=
  ranges.any (·.contains c)

end TailnetTargets.Text
