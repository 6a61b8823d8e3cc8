/-
  Labels of domain names in ASCII.

  A label with other characters is written as its ASCII characters, a hyphen, and for the others,
  in the order of their numbers, how far the decoder has to advance from one to the next.

  * `adapt` is the bias by which the digits of a distance are weighed;
  * `distanceChars` writes a distance in digits of base 36 whose weights depend on the bias;
  * `encode` is the ASCII form of a label.
-/

namespace TailnetTargets.Punycode

/-- A digit of base 36: letters stand before figures. -/
def digit (n : Nat) : Char := if n < 26 then Char.ofNat (0x61 + n) else Char.ofNat (0x30 + n - 26)

/-- The least value which the digit of a position cannot have at the end of a number. -/
def threshold (position bias : Nat) : Nat :=
  if position ≤ bias then 1 else if bias + 26 ≤ position then 26 else position - bias

/-- Brings a distance into the range from which the bias is computed, and counts the digits which
    that takes. -/
def scaleDown (delta digits : Nat) : Nat × Nat :=
  if 455 < delta then scaleDown (delta / 35) (digits + 36) else (delta, digits)
termination_by delta
decreasing_by exact Nat.div_lt_self (by omega) (by omega)

/-- The bias after a distance was written. -/
def adapt (delta count : Nat) (first : Bool) : Nat :=
  let halved := if first then delta / 700 else delta / 2
  let (delta, digits) := scaleDown (halved + halved / count) 0
  digits + 36 * delta / (delta + 38)

/-- The digits of a distance, of which there are no more than `fuel`. -/
def distanceChars (fuel : Nat) (q position bias : Nat) : List Char :=
  match fuel with
  | 0 => []
  | fuel + 1 =>
    let t := threshold position bias
    if q < t then [digit q]
    else
      digit (t + (q - t) % (36 - t))
        :: distanceChars fuel ((q - t) / (36 - t)) (position + 36) bias

/-- What an encoder knows between two characters. -/
structure State where
  /-- what was written -/
  out : List Char
  /-- the distance so far -/
  delta : Nat
  /-- the bias -/
  bias : Nat
  /-- how many characters were written -/
  handled : Nat

/-- Goes over a character of the label while characters of the number `n` are written.  Of the
    characters of the label, `basic` are ASCII. -/
def visit (n basic : Nat) (s : State) (c : Char) : State :=
  if c.toNat < n then { s with delta := s.delta + 1 }
  else if c.toNat = n then
    { out := s.out ++ distanceChars (s.delta + 1) s.delta 36 s.bias
      delta := 0
      bias := adapt s.delta (s.handled + 1) (s.handled = basic)
      handled := s.handled + 1 }
  else s

/-- Writes the characters with the numbers `ns`, in ascending order, of a label.  The numbers below
    `low` were written already. -/
def encodeAll (label : List Char) (basic : Nat) (s : State) (low : Nat) : List Nat → List Char
  | [] => s.out
  | n :: ns =>
    let s := { s with delta := s.delta + (n - low) * (s.handled + 1) }
    let s := label.foldl (visit n basic) s
    encodeAll label basic { s with delta := s.delta + 1 } (n + 1) ns

/-- The characters of a label which are not ASCII, as their numbers in ascending order. -/
def extended (label : List Char) : List Nat :=
  ((label.map Char.toNat).filter (0x80 ≤ ·)).eraseDups.mergeSort (· ≤ ·)

/-- The ASCII form of a label. -/
def encode (label : List Char) : List Char :=
  match extended label with
  | [] => label
  | ns =>
    let basic := label.filter (·.toNat < 0x80)
    let start := if basic.isEmpty then [] else basic ++ ['-']
    "xn--".toList
      ++ encodeAll label basic.length ⟨start, 0, 72, basic.length⟩ 0x80 ns

end TailnetTargets.Punycode
