/-
  Quoted text: a text between double quotes, with everything that would not show escaped.

  * `escapeChar`: a tab, a line feed, a carriage return, a null, a backslash and a double quote
    have short escapes; other hidden characters are written as their number, such as `\u{301}`;
  * `quoted`: the escaped characters between double quotes.
-/
import TailnetTargets.Text.HiddenTable

namespace TailnetTargets.Text

/-- Whether a character is not shown as itself. -/
def isHidden (c : Char) : Bool :=
  if 0x20 ≤ c.toNat ∧ c.toNat < 0x7f then false else isIn hiddenRanges c

/-- How a character is written inside quoted text. -/
def escapeChar (c : Char) : List Char :=
  if c = '\t' then ['\\', 't']
  else if c = '\n' then ['\\', 'n']
  else if c = '\r' then ['\\', 'r']
  else if c.toNat = 0 then ['\\', '0']
  else if c = '\\' then ['\\', '\\']
  else if c = '"' then ['\\', '"']
  else if isHidden c then ['\\', 'u', '\x7b'] ++ Nat.toDigits 16 c.toNat ++ ['\x7d']
  else [c]

/-- The text between double quotes. -/
def quoted (s : String) : String :=
  String.ofList ('"' :: s.toList.flatMap escapeChar ++ ['"'])

end TailnetTargets.Text
