/-
  Reading spans of time, such as `1h 30m`, `1.5h` or `2 weeks 3days`.

  A text is made of groups of a number and a unit.  White space may stand before a group, between
  its number and its unit, and among the digits; a group may follow the unit of another one at once.
  A lone `0` needs no unit.

  * `Group`: a number, its decimal places and its unit;
  * `groups?` cuts a text into groups;
  * `Group.duration?` is the span of a group.  A fraction must come to whole nanoseconds.  A
    number, a span in seconds, a span in a unit shorter than a second in nanoseconds, and the
    nanoseconds of a fraction before its point is set all stay below 2^64;
  * `Duration.ofText?` reads a span.
-/
import TailnetTargets.Duration.Unit
import TailnetTargets.Text.Blank
import TailnetTargets.Text.Digit

namespace TailnetTargets.Duration

open Text

/-- A number with a unit. -/
structure Group where
  /-- the digits before the point -/
  whole : List Char
  /-- the digits after the point, if there is one -/
  places : Option (List Char)
  /-- the unit -/
  unit : List Char

/-- Whether a character may stand in the name of a unit. -/
def isUnitChar (c : Char) : Bool := c.isAlpha || c = 'µ'

/-- The digits at the head of a text, white space among them passed over, and the rest. -/
def takeDigits (cs : List Char) : List Char × List Char :=
  let belongs (c : Char) := c.isDigit || isBlank c
  ((cs.takeWhile belongs).filter Char.isDigit, cs.dropWhile belongs)

/-- The digits after a point, if there is a point. -/
def takePlaces? (cs : List Char) : Option (Option (List Char) × List Char) :=
  match cs with
  | '.' :: rest =>
    match takeDigits rest with
    | ([], _) => none
    | (places, rest) => some (some places, rest)
  | _ => some (none, cs)

/-- The group at the head of a text which starts with a digit, and the rest of the text. -/
def takeGroup? (cs : List Char) : Option (Group × List Char) := do
  let (whole, rest) := takeDigits cs
  let (places, rest) ← takePlaces? rest
  let unit := rest.takeWhile isUnitChar
  return (⟨whole, places, unit⟩, rest.drop unit.length)

/-- The groups of a text, of which there are no more than `fuel`. -/
def groupsWithin? (fuel : Nat) (cs : List Char) : Option (List Group) :=
  match fuel with
  | 0 => none
  | fuel + 1 =>
    match cs with
    | [] => some []
    | c :: _ => do
      guard c.isDigit
      let (group, rest) ← takeGroup? cs
      let groups ← groupsWithin? fuel (rest.dropWhile isBlank)
      return group :: groups

/-- The groups of a text, of which there is at least one. -/
def groups? (cs : List Char) : Option (List Group) :=
  match groupsWithin? (cs.length + 1) (cs.dropWhile isBlank) with
  | some [] => none
  | groups => groups

/-- A number below 2^64. -/
def within? (n : Nat) : Option Nat := if n < Nat.pow 2 64 then some n else none

namespace Group

/-- The nanoseconds of the fraction of a group. -/
def fraction? (unit : TimeUnit) (places : List Char) : Option Nat := do
  guard (places.length < 20)
  let nanos ← within? ((← number? 10 places) * unit.nanos)
  let scale := Nat.pow 10 places.length
  guard (unit ≠ .nanosecond ∧ nanos % scale = 0)
  return nanos / scale

/-- The span of a group. -/
def duration? (g : Group) : Option Duration := do
  let unit ← TimeUnit.ofName? (String.ofList g.unit)
  let n ← within? (← number? 10 g.whole)
  let whole ← if unit.isShort then within? (n * unit.nanos)
    else (within? (n * unit.seconds)).map (· * nanosPerSecond)
  match g.places with
  | none => return ⟨whole⟩
  | some places => return ⟨whole + (← fraction? unit places)⟩

end Group

/-- The sum of spans and a total, which stays below the limit at every step. -/
def sum? (total : Duration) : List Duration → Option Duration
  | [] => some total
  | d :: rest => if total.add d < limit then sum? (total.add d) rest else none

/-- The span which a text writes. -/
def ofText? (s : String) : Option Duration :=
  if s = "0" then some zero
  else do
    let groups ← groups? s.toList
    let spans ← groups.mapM Group.duration?
    sum? zero spans

end TailnetTargets.Duration
