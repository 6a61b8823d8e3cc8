/-
  Texts and blanks in TOML.

  * `takeBasic?` reads a text between quotes, in which a backslash escapes, and `takeLiteral?` one
    between apostrophes, in which it does not; `takeBasicLines?` and `takeLiteralLines?` read texts
    between three of them, which may go over several lines;
  * `takeText?` reads a text of any of the four forms;
  * `takeNewline?` reads the end of a line, `skipSpace` spaces and tabs, `skipGap?` spaces, ends of
    lines and comments.

  Each of them gives what it read and the rest of the document.
-/
import TailnetTargets.Text.Digit

namespace TailnetTargets.Toml

open Text

/-- The rest of a document after spaces and tabs. -/
def skipSpace (cs : List Char) : List Char := cs.dropWhile fun c => c = ' ' || c = '\t'

/-- The rest of a document after the end of a line. -/
def takeNewline? : List Char → Option (List Char)
  | '\n' :: rest => some rest
  | '\r' :: '\n' :: rest => some rest
  | _ => none

/-- Whether a character may stand in a comment or in a literal text: a tab, or no control. -/
def isPlain (c : Char) : Bool := c = '\t' || (0x20 ≤ c.toNat && c.toNat ≠ 0x7f)

/-- The rest of a document after a comment, if there is one. -/
def skipComment (cs : List Char) : List Char :=
  match cs with
  | '#' :: rest => rest.dropWhile isPlain
  | _ => cs

/-- The rest of a document after blanks, ends of lines and comments, of which there are no more than
    `fuel`. -/
def skipGapWithin (fuel : Nat) (cs : List Char) : List Char :=
  match fuel with
  | 0 => cs
  | fuel + 1 =>
    let rest := skipComment (skipSpace cs)
    match takeNewline? rest with
    | some rest => skipGapWithin fuel rest
    | none => rest

/-- The rest of a document after blanks, ends of lines and comments. -/
def skipGap (cs : List Char) : List Char := skipGapWithin (cs.length + 1) cs

/-! ## Escapes -/

/-- The character with a number written in hexadecimal digits. -/
def scalar? (digits : List Char) : Option Char := do
  let n ← number? 16 digits
  if n < 0xd800 ∨ (0xdfff < n ∧ n < 0x110000) then some (Char.ofNat n) else none

/-- The character which follows a backslash, and how many characters write it. -/
def escape? : List Char → Option (Char × Nat)
  | 'b' :: _ => some ('\x08', 1)
  | 't' :: _ => some ('\t', 1)
  | 'n' :: _ => some ('\n', 1)
  | 'f' :: _ => some ('\x0c', 1)
  | 'r' :: _ => some ('\r', 1)
  | '"' :: _ => some ('"', 1)
  | '\\' :: _ => some ('\\', 1)
  | 'u' :: rest => if 4 ≤ rest.length then (scalar? (rest.take 4)).map (·, 5) else none
  | 'U' :: rest => if 8 ≤ rest.length then (scalar? (rest.take 8)).map (·, 9) else none
  | _ => none

/-- A character in front of a text which was read. -/
def push (c : Char) : Option (List Char × List Char) → Option (List Char × List Char)
  | some (cs, rest) => some (c :: cs, rest)
  | none => none

/-! ## Texts on one line -/

/-- Reads a text up to its closing quote, where the first characters were taken already. -/
def takeBasicAfter? : Nat → List Char → Option (List Char × List Char)
  | _, [] => none
  | skip + 1, _ :: rest => takeBasicAfter? skip rest
  | 0, c :: rest =>
    if c = '"' then some ([], rest)
    else if c = '\\' then
      match escape? rest with
      | some (c, n) => push c (takeBasicAfter? n rest)
      | none => none
    else if isPlain c then push c (takeBasicAfter? 0 rest)
    else none

/-- Reads a text up to its closing quote. -/
def takeBasic? (cs : List Char) : Option (List Char × List Char) := takeBasicAfter? 0 cs

/-- Reads a text up to its closing apostrophe. -/
def takeLiteral? : List Char → Option (List Char × List Char)
  | [] => none
  | c :: rest =>
    if c = '\x27' then some ([], rest)
    else if isPlain c then push c (takeLiteral? rest)
    else none

/-! ## Texts over several lines -/

/-- How many times a character is repeated at the head of a document. -/
def runLength (c : Char) (cs : List Char) : Nat := (cs.takeWhile (· = c)).length

/-- The rest of a document after blanks and ends of lines. -/
def skipBlankLines : List Char → List Char
  | ' ' :: rest => skipBlankLines rest
  | '\t' :: rest => skipBlankLines rest
  | '\n' :: rest => skipBlankLines rest
  | '\r' :: '\n' :: rest => skipBlankLines rest
  | cs => cs

/-- The number of characters of white space after a backslash at the end of a line, if the line ends
    there: blanks, the end of the line, and everything blank after it. -/
def continuation? (cs : List Char) : Option Nat :=
  match takeNewline? (skipSpace cs) with
  | none => none
  | some rest => some (cs.length - (skipBlankLines rest).length)

/-- Reads a text up to three closing quotes, where the first characters were taken already. -/
def takeBasicLinesAfter? : Nat → List Char → Option (List Char × List Char)
  | _, [] => none
  | skip + 1, _ :: rest => takeBasicLinesAfter? skip rest
  | 0, c :: rest =>
    if c = '"' then
      match runLength '"' rest with
      | 0 | 1 => push c (takeBasicLinesAfter? 0 rest)
      | 2 => some ([], rest.drop 2)
      | 3 => some (['"'], rest.drop 3)
      | _ => some (['"', '"'], rest.drop 4)
    else if c = '\\' then
      match escape? rest, continuation? rest with
      | some (c, n), _ => push c (takeBasicLinesAfter? n rest)
      | none, some n => takeBasicLinesAfter? n rest
      | none, none => none
    else if c = '\r' then
      match rest with
      | '\n' :: _ => takeBasicLinesAfter? 0 rest
      | _ => none
    else if c = '\n' ∨ isPlain c then push c (takeBasicLinesAfter? 0 rest)
    else none

/-- Reads a text up to three closing apostrophes. -/
def takeLiteralLines? : List Char → Option (List Char × List Char)
  | [] => none
  | c :: rest =>
    if c = '\x27' then
      match runLength '\x27' rest with
      | 0 | 1 => push c (takeLiteralLines? rest)
      | 2 => some ([], rest.drop 2)
      | 3 => some (['\x27'], rest.drop 3)
      | _ => some (['\x27', '\x27'], rest.drop 4)
    else if c = '\r' then
      match rest with
      | '\n' :: _ => takeLiteralLines? rest
      | _ => none
    else if c = '\n' ∨ isPlain c then push c (takeLiteralLines? rest)
    else none

/-- A document without an end of line at its head. -/
def dropNewline (cs : List Char) : List Char := (takeNewline? cs).getD cs

/-- Reads a text of any form. -/
def takeText? (cs : List Char) : Option (List Char × List Char) :=
  match cs with
  | '"' :: '"' :: '"' :: rest => takeBasicLinesAfter? 0 (dropNewline rest)
  | '"' :: rest => takeBasic? rest
  | '\x27' :: '\x27' :: '\x27' :: rest => takeLiteralLines? (dropNewline rest)
  | '\x27' :: rest => takeLiteral? rest
  | _ => none

end TailnetTargets.Toml
