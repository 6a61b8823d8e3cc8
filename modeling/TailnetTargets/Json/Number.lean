/-
  The spelling of numbers in JSON.

  * `Numeral.take?` reads a number: an integer without needless zeros, then perhaps a point and
    digits, then perhaps an exponent;
  * `Numeral.natural?` is the value of a spelling which consists of digits alone;
  * `Numeral.isHuge` says whether the number is beyond the range of 64-bit floating point, that is
    whether it would be rounded to 2^1024 or more.
-/
import TailnetTargets.Json.Basic
import TailnetTargets.Text.Digit
import TailnetTargets.Text.Utf8

namespace TailnetTargets.Numeral

open Text

/-- The digits at the head of a text. -/
def digits : List Symbol → List Char
  | .char c :: rest => if c.isDigit then c :: digits rest else []
  | _ => []

/-- What is wrong where a digit is needed.  Who keeps a number tells an early end of the text from
    other faults; who skips it does not. -/
def noDigit (rest : List Symbol) : Flaw :=
  ⟨if rest.isEmpty then .unfinished else .malformed, .malformed⟩

/-- One or more digits, and the rest of the text. -/
def takeDigits (cs : List Symbol) : Except Flaw (List Char × List Symbol) :=
  match digits cs with
  | [] => .error (noDigit cs)
  | ds => .ok (ds, cs.drop ds.length)

/-- The digits of an integer: a lone zero, or digits of which the first is not zero. -/
def takeWhole (cs : List Symbol) : Except Flaw (List Char × List Symbol) :=
  match takeDigits cs with
  | .ok ('0' :: _ :: _, _) => .error Fault.malformed.flaw
  | result => result

/-- A point and digits, if there is a point. -/
def takeFraction (cs : List Symbol) : Except Flaw (List Char × List Symbol) :=
  match cs with
  | .char '.' :: rest => do
    let (ds, rest) ← takeDigits rest
    return ('.' :: ds, rest)
  | _ => .ok ([], cs)

/-- The sign at the head of a text, if there is one of those which are allowed. -/
def takeSign (signs : List Char) (cs : List Symbol) : List Char × List Symbol :=
  match cs with
  | .char c :: rest => if signs.contains c then ([c], rest) else ([], cs)
  | _ => ([], cs)

/-- The letter of an exponent, its sign and its digits, if there is such a letter. -/
def takeExponent (cs : List Symbol) : Except Flaw (List Char × List Symbol) :=
  match takeSign ['e', 'E'] cs with
  | ([], _) => .ok ([], cs)
  | (letter, rest) => do
    let (sign, rest) := takeSign ['+', '-'] rest
    let (ds, rest) ← takeDigits rest
    return (letter ++ sign ++ ds, rest)

/-- The spelling of a number at the head of a text, and the rest of the text. -/
def take? (cs : List Symbol) : Except Flaw (List Char × List Symbol) := do
  let (sign, rest) := takeSign ['-'] cs
  let (whole, rest) ← takeWhole rest
  let (fraction, rest) ← takeFraction rest
  let (exponent, rest) ← takeExponent rest
  return (sign ++ whole ++ fraction ++ exponent, rest)

/-- The number which digits write, where other characters are passed over. -/
def digitsValue (ds : List Char) : Nat :=
  ds.foldl (fun n c => match digitValue? 10 c with | some d => n * 10 + d | none => n) 0

/-- The value of a spelling which consists of digits alone. -/
def natural? (spelling : List Char) : Option Nat := number? 10 spelling

/-- The exponent of a spelling. -/
def exponent (spelling : List Char) : Int :=
  match spelling.dropWhile (fun c => c != 'e' && c != 'E') with
  | _ :: '-' :: ds => - (digitsValue ds : Int)
  | _ :: ds => digitsValue ds
  | [] => 0

/-- Whether a number is beyond the range of 64-bit floating point. -/
def isHuge (spelling : List Char) : Bool :=
  let mantissa := spelling.takeWhile fun c => c != 'e' && c != 'E'
  let fraction := (mantissa.dropWhile (· != '.')).drop 1
  let scale := exponent spelling - fraction.length
  let significant := digitsValue mantissa
  let magnitude := scale + (Nat.toDigits 10 significant).length
  if significant = 0 ∨ magnitude < 300 then false
  else if 320 < magnitude then true
  else
    Nat.pow 2 1024 - Nat.pow 2 970
      ≤ significant * Nat.pow 10 scale.toNat / Nat.pow 10 (-scale).toNat

end TailnetTargets.Numeral
