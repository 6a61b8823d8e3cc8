/-
  Digits as values.

  * `digitValue? base c` is the value of the ASCII digit `c` in a base up to 16, letters in either
    case;
  * `number? base cs` reads a non-empty list of digits, `none` if one of them is no digit.
-/

namespace TailnetTargets.Text

/-- The value of an ASCII digit below 16, letters in either case. -/
def hexValue? (c : Char) : Option Nat :=
  if '0' ≤ c ∧ c ≤ '9' then some (c.toNat - '0'.toNat)
  else if 'a' ≤ c ∧ c ≤ 'f' then some (c.toNat - 'a'.toNat + 10)
  else if 'A' ≤ c ∧ c ≤ 'F' then some (c.toNat - 'A'.toNat + 10)
  else none

/-- The value of an ASCII digit in a base up to 16. -/
def digitValue? (base : Nat) (c : Char) : Option Nat :=
  (hexValue? c).filter (· < base)

/-- Continues a number whose leading digits are worth `value`. -/
def numberAfter? (base value : Nat) : List Char → Option Nat
  | [] => some value
  | c :: cs =>
    match digitValue? base c with
    | some d => numberAfter? base (value * base + d) cs
    | none => none

/-- The number written by a non-empty list of digits. -/
def number? (base : Nat) (cs : List Char) : Option Nat :=
  if cs.isEmpty then none else numberAfter? base 0 cs

end TailnetTargets.Text
