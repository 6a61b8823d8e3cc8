/-
  Reading TOML documents.

  * `takeKey?` reads a key with its dots, `takeValue?` a value, `takeLine?` a line of a document;
  * `Toml.ofText?` reads a document: `none` if anything in it is at fault.

  Values are nested no deeper than `deepest`, and keys have no more parts.
-/
import TailnetTargets.Toml.Scalar
import TailnetTargets.Toml.Text

namespace TailnetTargets.Toml

/-- How deep values may be nested. -/
def deepest : Nat := 79

/-! ## Keys -/

/-- Whether a character may stand in a key without quotes. -/
def isKeyChar (c : Char) : Bool := c.isAlphanum || c = '-' || c = '_'

/-- A part of a key, and the rest of the document. -/
def takeKeyPart? (cs : List Char) : Option (String × List Char) := do
  match cs with
  | '"' :: rest =>
    let (key, rest) ← takeBasic? rest
    return (String.ofList key, rest)
  | '\x27' :: rest =>
    let (key, rest) ← takeLiteral? rest
    return (String.ofList key, rest)
  | _ =>
    let key := cs.takeWhile isKeyChar
    guard (!key.isEmpty)
    return (String.ofList key, cs.drop key.length)

/-- The parts of a key, no more than `fuel`, and the rest of the document after blanks. -/
def takeKeyWithin? (fuel : Nat) (cs : List Char) : Option (List String × List Char) :=
  match fuel with
  | 0 => none
  | fuel + 1 => do
    let (part, rest) ← takeKeyPart? (skipSpace cs)
    match skipSpace rest with
    | '.' :: rest =>
      let (parts, rest) ← takeKeyWithin? fuel rest
      return (part :: parts, rest)
    | rest => return ([part], rest)

/-- The parts of a key, and the rest of the document after blanks. -/
def takeKey? (cs : List Char) : Option (List String × List Char) := takeKeyWithin? deepest cs

/-- The parts of a key, and the rest of the document after the equals sign. -/
def takeKeyEquals? (cs : List Char) : Option (List String × List Char) := do
  match ← takeKey? cs with
  | (key, '=' :: rest) => return (key, skipSpace rest)
  | _ => none

/-! ## Values -/

mutual

/-- The value at the head of a document, and the rest.  It is nested no deeper than `depth`. -/
def takeValueWithin? (fuel depth : Nat) (cs : List Char) : Option (Toml × List Char) :=
  match fuel with
  | 0 => none
  | fuel + 1 =>
    match cs with
    | '"' :: _ | '\x27' :: _ =>
      match takeText? cs with
      | some (s, rest) => some (.text (String.ofList s), rest)
      | none => none
    | '[' :: rest =>
      match depth with
      | 0 => none
      | depth + 1 =>
        match takeItems? fuel depth (skipGap rest) with
        | some (items, rest) => some (.array items, rest)
        | none => none
    | '\x7b' :: rest =>
      match depth with
      | 0 => none
      | depth + 1 =>
        match skipSpace rest with
        | '\x7d' :: rest => some (.table [], rest)
        | rest =>
          match takeMembers? fuel depth [] rest with
          | some (entries, rest) => some (.table (TomlNode.entriesToToml entries), rest)
          | none => none
    | _ => takeScalar? cs

/-- The items of an array up to its closing bracket, and the rest of the document. -/
def takeItems? (fuel depth : Nat) (cs : List Char) : Option (List Toml × List Char) :=
  match fuel with
  | 0 => none
  | fuel + 1 =>
    match cs with
    | ']' :: rest => some ([], rest)
    | _ => do
      let (item, rest) ← takeValueWithin? fuel depth cs
      match skipGap rest with
      | ']' :: rest => return ([item], rest)
      | ',' :: rest =>
        let (items, rest) ← takeItems? fuel depth (skipGap rest)
        return (item :: items, rest)
      | _ => none

/-- The entries of a table on one line up to its closing brace, and the rest of the document. -/
def takeMembers? (fuel depth : Nat) (entries : TomlEntries) (cs : List Char) :
    Option (TomlEntries × List Char) :=
  match fuel with
  | 0 => none
  | fuel + 1 => do
    let (key, rest) ← takeKeyEquals? cs
    let (v, rest) ← takeValueWithin? fuel depth rest
    let entries ← TomlEntries.define? key v entries
    match skipSpace rest with
    | '\x7d' :: rest => return (entries, rest)
    | ',' :: rest => takeMembers? fuel depth entries rest
    | _ => none

end

/-- The value at the head of a document, and the rest. -/
def takeValue? (cs : List Char) : Option (Toml × List Char) :=
  takeValueWithin? (2 * cs.length + 2) deepest cs

/-! ## Documents -/

/-- What a document has said so far: its entries, and the table which was opened last. -/
structure Progress where
  /-- the entries -/
  entries : TomlEntries
  /-- the path of the table which was opened last -/
  opened : List String

/-- What follows a key or a header on its line: nothing but blanks and a comment. -/
def endOfLine? (cs : List Char) : Option (List Char) :=
  match skipComment (skipSpace cs) with
  | [] => some []
  | rest => takeNewline? rest

/-- Reads what stands on a line, and gives the rest of the document after it. -/
def takeLine? (p : Progress) (cs : List Char) : Option (Progress × List Char) := do
  match cs with
  | '[' :: '[' :: rest =>
    match ← takeKey? rest with
    | (path, ']' :: ']' :: rest) =>
      return (⟨← p.entries.openElement? path, path⟩, rest)
    | _ => none
  | '[' :: rest =>
    match ← takeKey? rest with
    | (path, ']' :: rest) => return (⟨← p.entries.open? path, path⟩, rest)
    | _ => none
  | _ =>
    let (key, rest) ← takeKeyEquals? cs
    let (v, rest) ← takeValue? rest
    return ({ p with entries := ← p.entries.defineIn? p.opened key v }, rest)

/-- Reads the lines of a document, of which there are no more than `fuel`. -/
def takeLines? (fuel : Nat) (p : Progress) (cs : List Char) : Option Progress :=
  match fuel with
  | 0 => none
  | fuel + 1 =>
    match skipGap cs with
    | [] => some p
    | cs => do
      let (p, rest) ← takeLine? p cs
      takeLines? fuel p (← endOfLine? rest)

/-- The entries of a document. -/
def ofText? (s : String) : Option (List (String × Toml)) := do
  let cs := match s.toList with
    | '\ufeff' :: rest => rest
    | cs => cs
  let p ← takeLines? (cs.length + 1) ⟨[], []⟩ cs
  return TomlNode.entriesToToml p.entries

end TailnetTargets.Toml
