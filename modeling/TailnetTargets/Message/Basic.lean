/-
  Messages as the bytes which are sent.

  A message has a head of lines, an empty line, and a body.  The first line says what the message
  is, and each of the others holds a field.  A line ends in a line feed, before which a carriage
  return may stand.

  * `Message.split?` finds the lines of a head and what follows it;
  * `Head`: a first line and the fields; `Head.ofBytes?` reads it, `Head.values` finds fields;
  * `Message.bytes` writes a message.
-/
import TailnetTargets.Text.Fields

namespace TailnetTargets.Message

/-! ## Lines -/

/-- Whether a character may stand in the name of a field. -/
def isNameChar (c : Char) : Bool := c.isAlphanum || "!#$%&'*+-.^_`|~".toList.contains c

/-- Whether a character may stand in the value of a field. -/
def isValueChar (c : Char) : Bool := c = '\t' || (' ' ≤ c && c ≠ '\x7f')

/-- Whether a character separates words of a line. -/
def isGap (c : Char) : Bool := c = ' ' || c = '\t'

/-- A text without the gaps around it. -/
def trim (cs : List Char) : List Char :=
  ((cs.dropWhile isGap).reverse.dropWhile isGap).reverse

/-- A line of which the characters are given in reverse, without a carriage return at its end. -/
def lineOfReverse : List Char → List Char
  | '\r' :: cs => cs.reverse
  | cs => cs.reverse

/-- The lines of a head and what follows it, after the lines and the characters of the next line
    which were read already, the last one first.  Empty lines before the head do not count. -/
def splitAfter (lines : List (List Char)) (line : List Char) :
    List UInt8 → Option (List (List Char) × List UInt8)
  | [] => none
  | b :: rest =>
    if b ≠ 10 then splitAfter lines (Char.ofNat b.toNat :: line) rest
    else
      match lineOfReverse line, lines with
      | [], [] => splitAfter [] [] rest
      | [], _ :: _ => some (lines.reverse, rest)
      | line, lines => splitAfter (line :: lines) [] rest

/-- The lines of the head of a message, and what follows it. -/
def split? (bytes : List UInt8) : Option (List (List Char) × List UInt8) := splitAfter [] [] bytes

/-! ## Heads -/

/-- The head of a message. -/
structure Head where
  /-- what the message is -/
  first : List Char
  /-- the fields, with their names in small letters -/
  fields : List (List Char × List Char)
deriving DecidableEq, Repr

/-- The field which a line holds. -/
def field? (line : List Char) : Option (List Char × List Char) :=
  match line.takeWhile isNameChar, line.dropWhile isNameChar with
  | name@(_ :: _), ':' :: value =>
    if value.all isValueChar then some (name.map Char.toLower, trim value) else none
  | _, _ => none

namespace Head

/-- The head of a message, and what follows it. -/
def ofBytes? (bytes : List UInt8) : Option (Head × List UInt8) := do
  match ← split? bytes with
  | ([], _) => none
  | (first :: lines, body) => return (⟨first, ← lines.mapM field?⟩, body)

/-- The values of the fields with a name. -/
def values (name : String) (head : Head) : List (List Char) :=
  (head.fields.filter (·.1 = name.toList)).map (·.2)

end Head

/-! ## Writing -/

/-- The lines of a head as text. -/
def headText (first : String) (fields : List (String × String)) : String :=
  String.join ((first :: fields.map fun (name, value) => name ++ ": " ++ value).map (· ++ "\r\n"))
    ++ "\r\n"

/-- A field which may be missing. -/
def optional (name : String) (value : Option String) : List (String × String) :=
  (value.map fun v => (name, v)).toList

/-- The bytes of a message. -/
def bytes (first : String) (fields : List (String × String)) (body : List UInt8) : List UInt8 :=
  (headText first fields).toUTF8.toList ++ body

end TailnetTargets.Message
