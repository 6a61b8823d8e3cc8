/-
  The compact text of JSON values.

  * `escapeChar`: a quote, a backslash and the controls with short escapes are written with those,
    other controls with four hexadecimal digits, and every other character as itself;
  * `render` writes a value without any blanks.  What could not be read is not written.
-/
import TailnetTargets.Json.Basic

namespace TailnetTargets.Json

/-- How a character is written inside a text. -/
def escapeChar (c : Char) : List Char :=
  if c = '"' then ['\\', '"']
  else if c = '\\' then ['\\', '\\']
  else if c = '\x08' then ['\\', 'b']
  else if c = '\x0c' then ['\\', 'f']
  else if c = '\n' then ['\\', 'n']
  else if c = '\r' then ['\\', 'r']
  else if c = '\t' then ['\\', 't']
  else if c.toNat < 0x10 then ['\\', 'u', '0', '0', '0', Nat.digitChar c.toNat]
  else if c.toNat < 0x20 then ['\\', 'u', '0', '0', '1', Nat.digitChar (c.toNat - 0x10)]
  else [c]

/-- A text between quotes. -/
def quote (s : String) : List Char := '"' :: s.toList.flatMap escapeChar ++ ['"']

/-- The closing bracket, unless something is wrong in its place. -/
def closing (bracket : Char) : Option Flaw → List Char
  | none => [bracket]
  | some _ => []

mutual

/-- The text of a value. -/
def chars : Json → List Char
  | null => "null".toList
  | bool b => (if b then "true" else "false").toList
  | number spelling => spelling
  | text content => quote (content.getD "")
  | array items ending => '[' :: itemChars items ++ closing ']' ending
  | object members ending => '\x7b' :: memberChars members ++ closing '\x7d' ending
  | broken _ => []

/-- The text of items with commas between them. -/
def itemChars : List Json → List Char
  | [] => []
  | [item] => chars item
  | item :: rest => chars item ++ ',' :: itemChars rest

/-- The text of members with commas between them. -/
def memberChars : List (Option String × Json) → List Char
  | [] => []
  | [(key, value)] => quote (key.getD "") ++ ':' :: chars value
  | (key, value) :: rest => quote (key.getD "") ++ ':' :: chars value ++ ',' :: memberChars rest

end

/-- The text of a value. -/
def render (value : Json) : String := String.ofList value.chars

end TailnetTargets.Json
