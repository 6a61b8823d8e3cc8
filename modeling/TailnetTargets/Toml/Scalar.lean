/-
  Numbers, truth values, dates and times in TOML.

  * `integer?`: decimal with a sign, or hexadecimal, octal or binary without one, in the range of 64
    bits; single underscores may stand between digits;
  * `float?`: a decimal integer with a fraction, an exponent or both, or a special value; the
    spelling must not exceed the range of 64-bit floating point;
  * `moment?`: a date, a time, or both with or without an offset;
  * `Toml.ofScalar?` reads any of these.
-/
import TailnetTargets.Json.Number
import TailnetTargets.Text.Fields
import TailnetTargets.Toml.Basic

namespace TailnetTargets.Toml

open Text

/-- The value of digits in a base, among which single underscores may stand. -/
def grouped? (base : Nat) (cs : List Char) : Option Nat := do
  let groups ← (fields '_' cs).mapM (number? base)
  guard (!groups.isEmpty)
  number? base (cs.filter (· ≠ '_'))

/-- Whether digits start with a zero that is not needed. -/
def isPadded : List Char → Bool
  | '0' :: _ :: _ => true
  | _ => false

/-- The value of a decimal integer without a sign. -/
def whole? (cs : List Char) : Option Nat := if isPadded cs then none else grouped? 10 cs

/-- A number without its sign, and whether the sign is a minus. -/
def unsigned : List Char → Bool × List Char
  | '-' :: rest => (true, rest)
  | '+' :: rest => (false, rest)
  | cs => (false, cs)

/-- A natural number with its sign, in the range of 64 bits. -/
def signed? (negative : Bool) (n : Nat) : Option Int :=
  if negative then if n ≤ Nat.pow 2 63 then some (-(n : Int)) else none
  else if n < Nat.pow 2 63 then some n else none

/-- An integer. -/
def integer? (cs : List Char) : Option Int :=
  match cs with
  | '0' :: 'x' :: digits => (grouped? 16 digits).bind (signed? false)
  | '0' :: 'o' :: digits => (grouped? 8 digits).bind (signed? false)
  | '0' :: 'b' :: digits => (grouped? 2 digits).bind (signed? false)
  | _ => (whole? (unsigned cs).2).bind (signed? (unsigned cs).1)

/-- Whether digits, among which single underscores may stand, make up a text. -/
def areDigits (cs : List Char) : Bool := (grouped? 10 cs).isSome

/-- Whether a text is empty or an exponent. -/
def isExponent (cs : List Char) : Bool :=
  match cs with
  | [] => true
  | e :: rest => (e = 'e' || e = 'E') && areDigits (unsigned rest).2

/-- Whether a text without a sign is a floating-point number of digits. -/
def isFloat (cs : List Char) : Bool :=
  let isMark (c : Char) := c = '.' || c = 'e' || c = 'E'
  let whole := cs.takeWhile fun c => !isMark c
  (whole? whole).isSome &&
    match cs.dropWhile fun c => !isMark c with
    | [] => false
    | '.' :: rest =>
      let places := rest.takeWhile fun c => !isMark c
      areDigits places && isExponent (rest.drop places.length)
    | exponent => isExponent exponent

/-- The spelling of a floating-point number. -/
def float? (cs : List Char) : Option (List Char) :=
  let (negative, body) := unsigned cs
  if body = "inf".toList ∨ body = "nan".toList then some cs
  else if isFloat body && (negative || !Numeral.isHuge (body.filter (· ≠ '_'))) then some cs
  else none

/-! ## Dates and times -/

/-- A number of exactly so many digits, in a range. -/
def digitsIn? (count low high : Nat) (cs : List Char) : Option Nat := do
  guard (cs.length = count)
  let n ← number? 10 cs
  if low ≤ n ∧ n ≤ high then some n else none

/-- The number of days in a month. -/
def daysIn (year month : Nat) : Nat :=
  if month = 2 then
    if year % 4 = 0 ∧ (year % 100 ≠ 0 ∨ year % 400 = 0) then 29 else 28
  else if month = 4 ∨ month = 6 ∨ month = 9 ∨ month = 11 then 30
  else 31

/-- Whether a text is a date. -/
def isDate (cs : List Char) : Bool :=
  match fields '-' cs with
  | [y, m, d] =>
    match digitsIn? 4 0 9999 y, digitsIn? 2 1 12 m with
    | some year, some month => (digitsIn? 2 1 (daysIn year month) d).isSome
    | _, _ => false
  | _ => false

/-- Whether a text is a number of seconds, perhaps with a fraction. -/
def isSeconds (cs : List Char) : Bool :=
  match fields '.' cs with
  | [s] => (digitsIn? 2 0 60 s).isSome
  | [s, places] => (digitsIn? 2 0 60 s).isSome && (number? 10 places).isSome
  | _ => false

/-- Whether a text is a time of day. -/
def isTime (cs : List Char) : Bool :=
  match fields ':' cs with
  | [h, m, s] => (digitsIn? 2 0 23 h).isSome && (digitsIn? 2 0 59 m).isSome && isSeconds s
  | _ => false

/-- Whether a text is empty or an offset from universal time. -/
def isOffset (cs : List Char) : Bool :=
  match cs with
  | [] => true
  | [z] => z = 'Z' || z = 'z'
  | sign :: rest =>
    (sign = '+' || sign = '-') &&
      match fields ':' rest with
      | [h, m] => (digitsIn? 2 0 23 h).isSome && (digitsIn? 2 0 59 m).isSome
      | _ => false

/-- Whether a text is a time of day, perhaps with an offset. -/
def isTimeWithOffset (cs : List Char) : Bool :=
  let isMark (c : Char) := c = 'Z' || c = 'z' || c = '+' || c = '-'
  isTime (cs.takeWhile fun c => !isMark c) && isOffset (cs.dropWhile fun c => !isMark c)

/-- Whether a text is a date, a time of day, or both. -/
def isMoment (cs : List Char) : Bool :=
  isTime cs || (isDate (cs.take 10) &&
    match cs.drop 10 with
    | [] => true
    | delimiter :: time =>
      (delimiter = 'T' || delimiter = 't' || delimiter = ' ') && isTimeWithOffset time)

/-- The value of a text which is neither quoted nor bracketed. -/
def ofScalar? (cs : List Char) : Option Toml :=
  if cs = "true".toList then some (.bool true)
  else if cs = "false".toList then some (.bool false)
  else if isMoment cs then some (.moment cs)
  else
    match integer? cs, float? cs with
    | some n, _ => some (.integer n)
    | none, some spelling => some (.float spelling)
    | none, none => none

/-- Whether a character may stand in a value which is neither quoted nor bracketed. -/
def isScalarChar (c : Char) : Bool :=
  c.isAlphanum || c = '+' || c = '-' || c = '.' || c = ':' || c = '_'

/-- The text of the value at the head of a document, which is neither quoted nor bracketed.  A blank
    belongs to it where it stands between a date and a time. -/
def scalarText (cs : List Char) : List Char :=
  let word := cs.takeWhile isScalarChar
  match cs.drop word.length with
  | ' ' :: c :: rest =>
    if isDate word ∧ c.isDigit then word ++ ' ' :: (c :: rest).takeWhile isScalarChar else word
  | _ => word

/-- The value at the head of a document, which is neither quoted nor bracketed, and the rest. -/
def takeScalar? (cs : List Char) : Option (Toml × List Char) := do
  let word := scalarText cs
  let v ← ofScalar? word
  return (v, cs.drop word.length)

end TailnetTargets.Toml
