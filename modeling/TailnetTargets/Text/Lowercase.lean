/-
  Full lower-casing of text.

  * `lowerChar`: the lower-case form of one character, which is one character except for the
    capital i with a dot above: that one becomes an i and a combining dot;
  * `lowercase`: every character is lower-cased on its own except a capital sigma, which becomes
    the final form `ς` at the end of a word and `σ` elsewhere.

  A capital sigma ends a word when, ignorable characters apart, a cased character stands before it
  and none stands after it.
-/
import TailnetTargets.Text.CaseTable

namespace TailnetTargets.Text

/-- Whether the character has a case. -/
def isCased (c : Char) : Bool := isIn casedRanges c

/-- Whether the character is skipped when the neighbours of a capital sigma are looked for. -/
def isCaseIgnorable (c : Char) : Bool := isIn ignorableRanges c

/-- The image of a character under a run, if it belongs to it. -/
def LowerRun.lower? (r : LowerRun) (c : Char) : Option Char :=
  if r.first ≤ c.toNat ∧ c.toNat ≤ r.last ∧ (c.toNat - r.first) % r.stride = 0 then
    some (Char.ofNat (r.image + (c.toNat - r.first)))
  else
    none

/-- The lower-case form of a character, regardless of its neighbours. -/
def lowerChar (c : Char) : List Char :=
  if c.toNat < 0x80 then [c.toLower]
  else if c.toNat = 0x130 then ['i', Char.ofNat 0x307]
  else [(lowerRuns.findSome? (·.lower? c)).getD c]

/-- Whether the first character which is not ignorable is cased. -/
def reachesCased (cs : List Char) : Bool :=
  match cs.dropWhile isCaseIgnorable with
  | [] => false
  | c :: _ => isCased c

/-- The lower-case form of a capital sigma between the text `before` it, last character first, and
    the text `after` it. -/
def lowerSigma (before after : List Char) : Char :=
  if reachesCased before && !reachesCased after then 'ς' else 'σ'

/-- Lower-cases a text which follows the text `before`, last character first. -/
def lowerAfter (before : List Char) : List Char → List Char
  | [] => []
  | c :: rest =>
    (if c = 'Σ' then [lowerSigma before rest] else lowerChar c) ++ lowerAfter (c :: before) rest

/-- The lower-case form of a text. -/
def lowercase (s : String) : String :=
  String.ofList (lowerAfter [] s.toList)

end TailnetTargets.Text
