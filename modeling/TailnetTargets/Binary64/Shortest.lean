/-
  The shortest decimal text of a floating-point number.

  * `roundsTo` says whether a decimal rounds to the number: it lies between the middles of the
    number and its neighbours, the middles included if the mantissa is even;
  * `Decimal`: a natural number of units of a power of ten;
  * `shortest` is the decimal with the fewest digits which rounds to the number, and of those the
    nearest, or the greater of two which are as near;
  * `text` writes it in positional notation.
-/
import TailnetTargets.Binary64.Basic

namespace TailnetTargets

/-- The number `digits · 10 ^ exponent`. -/
structure Decimal where
  /-- the digits as a natural number -/
  digits : Nat
  /-- the weight of the last digit -/
  exponent : Int
deriving DecidableEq, Repr

namespace Decimal

/-- The number as a quotient: what is divided. -/
def numerator (d : Decimal) : Nat := d.digits * Nat.pow 10 d.exponent.toNat

/-- The number as a quotient: what it is divided by. -/
def denominator (d : Decimal) : Nat := Nat.pow 10 (-d.exponent).toNat

/-- Positional notation: no exponent, and a point only before digits. -/
def chars (d : Decimal) : List Char :=
  let ds := Nat.toDigits 10 d.digits
  if 0 ≤ d.exponent then ds ++ List.replicate d.exponent.toNat '0'
  else
    let places := (-d.exponent).toNat
    let ds := List.replicate (places + 1 - ds.length) '0' ++ ds
    ds.take (ds.length - places) ++ '.' :: ds.drop (ds.length - places)

end Decimal

namespace Binary64

/-- Whether a decimal rounds to the number. -/
def roundsTo (v : Binary64) (d : Decimal) : Bool :=
  -- everything in quarters of the last binary digit
  let unit := d.denominator
  let value := 4 * d.numerator * v.denominator
  let step := Nat.pow 2 v.exponent.toNat * unit
  let center := 4 * v.mantissa * step
  let below := if v.mantissa = Nat.pow 2 52 ∧ leastExponent < v.exponent then step else 2 * step
  let above := 2 * step
  if v.mantissa % 2 = 0 then center ≤ value + below ∧ value ≤ center + above
  else center < value + below ∧ value < center + above

/-- The decimals next to the number among the multiples of a power of ten, the nearer one first and
    the greater one if both are as near. -/
def neighbours (v : Binary64) (exponent : Int) : List Decimal :=
  let num := v.numerator * Nat.pow 10 (-exponent).toNat
  let den := v.denominator * Nat.pow 10 exponent.toNat
  let low : Decimal := ⟨num / den, exponent⟩
  let high : Decimal := ⟨num / den + 1, exponent⟩
  if 2 * (num % den) < den then [low, high] else [high, low]

/-- An exponent at which the number has exactly one digit before the point, or one above it. -/
def leadingExponent (v : Binary64) : Int :=
  let whole := v.numerator / v.denominator
  if whole ≠ 0 then (Nat.toDigits 10 whole).length - 1
  else - ((Nat.toDigits 10 (v.denominator / v.numerator)).length : Int) + 1

/-- The first decimal which rounds to the number, on ever finer grids. -/
def search (v : Binary64) : Nat → Int → Decimal
  | 0, exponent => ⟨v.numerator * Nat.pow 10 (-exponent).toNat / v.denominator, exponent⟩
  | steps + 1, exponent =>
    match (v.neighbours exponent).find? v.roundsTo with
    | some d => d
    | none => v.search steps (exponent - 1)

/-- The decimal with the fewest digits which rounds to the number. -/
def shortest (v : Binary64) : Decimal :=
  if v.mantissa = 0 then ⟨0, 0⟩ else v.search 20 (v.leadingExponent + 1)

/-- The shortest decimal text of the number. -/
def text (v : Binary64) : String := String.ofList v.shortest.chars

end Binary64

end TailnetTargets
