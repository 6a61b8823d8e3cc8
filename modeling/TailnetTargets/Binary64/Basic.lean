/-
  Non-negative numbers of 64-bit binary floating point.

  * `Binary64`: a number `mantissa · 2 ^ exponent`;
  * `ofRatio` rounds a quotient of natural numbers to the nearest number with 53 binary digits, a
    tie to the even one;
  * `add`, `mul`, `div` round the exact result, and `≤` compares exactly.

  The numbers which occur are far below the largest of the format, so there is no infinity.
-/

namespace TailnetTargets

/-- The number `mantissa · 2 ^ exponent`. -/
structure Binary64 where
  /-- the digits as a natural number -/
  mantissa : Nat
  /-- the weight of the last digit -/
  exponent : Int
deriving DecidableEq, Repr

namespace Binary64

/-- The quotient rounded to the nearest natural number, a tie to the even one. -/
def roundDiv (num den : Nat) : Nat :=
  let q := num / den
  let r := num % den
  if 2 * r < den ∨ (2 * r = den ∧ q % 2 = 0) then q else q + 1

/-- The least exponent. -/
def leastExponent : Int := -1074

/-- The number zero. -/
def zero : Binary64 := ⟨0, leastExponent⟩

/-- The exponent at which a quotient has 53 binary digits, if it is not below the least one. -/
def exponentOf (num den : Nat) : Int :=
  let scale : Int := (num.log2 : Int) - (den.log2 : Int)
  let low := scale - 53
  let digits := num * Nat.pow 2 (-low).toNat / (den * Nat.pow 2 low.toNat)
  max leastExponent (if digits < Nat.pow 2 53 then low else low + 1)

/-- The number nearest to a quotient, a tie to the one with an even mantissa. -/
def ofRatio (num den : Nat) : Binary64 :=
  if num = 0 then zero
  else
    let e := exponentOf num den
    let m := roundDiv (num * Nat.pow 2 (-e).toNat) (den * Nat.pow 2 e.toNat)
    if m = Nat.pow 2 53 then ⟨Nat.pow 2 52, e + 1⟩ else ⟨m, e⟩

/-- The number as a quotient: what is divided. -/
def numerator (v : Binary64) : Nat := v.mantissa * Nat.pow 2 v.exponent.toNat

/-- The number as a quotient: what it is divided by. -/
def denominator (v : Binary64) : Nat := Nat.pow 2 (-v.exponent).toNat

/-- The number nearest to a natural number. -/
def ofNat (n : Nat) : Binary64 := ofRatio n 1

/-- The rounded sum. -/
def add (v w : Binary64) : Binary64 :=
  ofRatio (v.numerator * w.denominator + w.numerator * v.denominator)
    (v.denominator * w.denominator)

/-- The rounded product. -/
def mul (v w : Binary64) : Binary64 :=
  ofRatio (v.numerator * w.numerator) (v.denominator * w.denominator)

/-- The rounded quotient. -/
def div (v w : Binary64) : Binary64 :=
  ofRatio (v.numerator * w.denominator) (v.denominator * w.numerator)

/-- Whether a number is no greater than another. -/
def le (v w : Binary64) : Bool :=
  v.numerator * w.denominator ≤ w.numerator * v.denominator

end Binary64

end TailnetTargets
