/-
  Reading JSON documents.

  * `readText` reads a text up to its closing quote: either its content and what follows, or the
    flaw which made it stop;
  * `readValue` reads a value; what follows it is `none` if the value could not be read to its end;
  * `Document.ofBytes` reads a document.

  A control character or an unknown escape in a text stops everybody.  A stray byte or half a
  surrogate pair only spoils the content: who skips the text does not notice.
-/
import TailnetTargets.Json.Number

namespace TailnetTargets

namespace Json

open Text

/-! ## Texts -/

/-- The number of bytes in symbols. -/
def byteCount (cs : List Symbol) : Nat := cs.foldl (fun n c => n + c.size) 0

/-- The number written by the four hexadecimal digits of an escape. -/
def hexUnit? (cs : List Symbol) : Except Fault Nat :=
  match cs with
  | .char a :: .char b :: .char c :: .char d :: _ =>
    match number? 16 [a, b, c, d] with
    | some n => .ok n
    | none => .error (if byteCount (cs.take 4) < 4 then .unfinished else .malformed)
  | _ => .error (if byteCount (cs.take 4) < 4 then .unfinished else .malformed)

/-- What an escape gives. -/
inductive Escaped where
  /-- a character which takes this many symbols after the backslash -/
  | char (c : Char) (symbols : Nat)
  /-- half a surrogate pair, which takes this many symbols after the backslash -/
  | half (symbols : Nat)
  /-- an escape which cannot be read -/
  | broken (fault : Fault)

/-- The second half of a surrogate pair which starts with `high`. -/
def secondHalf (high : Nat) (cs : List Symbol) : Escaped :=
  match cs with
  | [] => .broken .unfinished
  | [.char '\\'] => .broken .unfinished
  | .char '\\' :: .char 'u' :: digits =>
    match hexUnit? digits with
    | .error .unfinished => .broken .unfinished
    | .error .malformed => .half 5
    | .ok low =>
      if 0xdc00 ≤ low ∧ low ≤ 0xdfff then
        .char (Char.ofNat (0x10000 + (high - 0xd800) * 0x400 + (low - 0xdc00))) 11
      else .half 5
  | _ => .half 5

/-- The escape after a backslash. -/
def escape (cs : List Symbol) : Escaped :=
  match cs with
  | [] => .broken .unfinished
  | .char '"' :: _ => .char '"' 1
  | .char '\\' :: _ => .char '\\' 1
  | .char '/' :: _ => .char '/' 1
  | .char 'b' :: _ => .char '\x08' 1
  | .char 'f' :: _ => .char '\x0c' 1
  | .char 'n' :: _ => .char '\n' 1
  | .char 'r' :: _ => .char '\r' 1
  | .char 't' :: _ => .char '\t' 1
  | .char 'u' :: digits =>
    match hexUnit? digits with
    | .error fault => .broken fault
    | .ok unit =>
      if 0xd800 ≤ unit ∧ unit ≤ 0xdbff then secondHalf unit (digits.drop 4)
      else if 0xdc00 ≤ unit ∧ unit ≤ 0xdfff then .half 5
      else .char (Char.ofNat unit) 5
  | _ => .broken .malformed

/-- What reading a text gives. -/
inductive TextReading where
  /-- the content and what follows the closing quote -/
  | read (content : Option (List Char)) (rest : List Symbol)
  /-- the flaw at which reading stopped -/
  | broken (flaw : Flaw)

namespace TextReading

/-- The text with a character in front. -/
def push (c : Char) : TextReading → TextReading
  | read content rest => read (content.map (c :: ·)) rest
  | broken flaw => broken flaw

/-- The text with a byte in front which belongs to no character: that is noticed at the closing
    quote. -/
def spoil : TextReading → TextReading
  | read _ rest => read none rest
  | broken flaw => broken flaw

/-- The text with half a surrogate pair in front: that is noticed at once. -/
def spoilAtOnce : TextReading → TextReading
  | read _ rest => read none rest
  | broken flaw => broken { flaw with kept := .malformed }

end TextReading

/-- Reads a text up to its closing quote, where the first symbols belong to an escape which was
    taken already. -/
def readTextAfter : Nat → List Symbol → TextReading
  | _, [] => .broken Fault.unfinished.flaw
  | skip + 1, _ :: rest => readTextAfter skip rest
  | 0, .stray :: rest => (readTextAfter 0 rest).spoil
  | 0, .char c :: rest =>
    if c = '"' then .read (some []) rest
    else if c = '\\' then
      match escape rest with
      | .char c symbols => (readTextAfter symbols rest).push c
      | .half symbols => (readTextAfter symbols rest).spoilAtOnce
      | .broken fault => .broken fault.flaw
    else if c.toNat < 0x20 then .broken Fault.malformed.flaw
    else (readTextAfter 0 rest).push c

/-- Reads a text up to its closing quote. -/
def readText (cs : List Symbol) : TextReading := readTextAfter 0 cs

/-! ## Values -/

/-- Whether a symbol is a blank. -/
def isBlank : Symbol → Bool
  | .char c => c = ' ' || c = '\n' || c = '\t' || c = '\r'
  | .stray => false

/-- A text without the blanks at its head. -/
def skipBlanks (cs : List Symbol) : List Symbol := cs.dropWhile isBlank

/-- A value and what follows it, if it could be read to its end. -/
abbrev Reading := Json × Option (List Symbol)

/-- The reading which stopped at a flaw. -/
def stopped (flaw : Flaw) : Reading := (broken flaw, none)

/-- The fault at a place where something else is needed. -/
def faultAt (cs : List Symbol) : Fault :=
  if cs.isEmpty then .unfinished else .malformed

/-- Reads the rest of a word which stands for a value. -/
def readWord (value : Json) (word : List Char) (cs : List Symbol) : Reading :=
  match word, cs with
  | [], rest => (value, some rest)
  | c :: word, .char d :: rest =>
    if c = d then readWord value word rest else stopped Fault.malformed.flaw
  | _, cs => stopped (faultAt cs).flaw

/-- Reads a number. -/
def readNumber (cs : List Symbol) : Reading :=
  match Numeral.take? cs with
  | .ok (spelling, rest) => (number spelling, some rest)
  | .error flaw => stopped flaw

mutual

/-- Reads a value, going no deeper than `fuel` steps. -/
def readValue (fuel : Nat) (cs : List Symbol) : Reading :=
  match fuel with
  | 0 => stopped Fault.malformed.flaw
  | fuel + 1 =>
    let cs := skipBlanks cs
    match cs with
    | .char 'n' :: rest => readWord null "ull".toList rest
    | .char 't' :: rest => readWord (bool true) "rue".toList rest
    | .char 'f' :: rest => readWord (bool false) "alse".toList rest
    | .char '"' :: rest =>
      match readText rest with
      | .read content rest => (text (content.map String.ofList), some rest)
      | .broken flaw => stopped flaw
    | .char '[' :: rest =>
      match skipBlanks rest with
      | .char ']' :: rest => (array [] none, some rest)
      | [] => (array [] (some Fault.unfinished.flaw), none)
      | rest =>
        let (items, ending, rest) := readItems fuel rest
        (array items ending, rest)
    | .char '\x7b' :: rest =>
      match skipBlanks rest with
      | .char '\x7d' :: rest => (object [] none, some rest)
      | rest =>
        let (members, ending, rest) := readMembers fuel rest
        (object members ending, rest)
    | .char c :: _ =>
      if c = '-' ∨ c.isDigit then readNumber cs else stopped Fault.malformed.flaw
    | _ => stopped (faultAt cs).flaw

/-- Reads the items of an array, of which there is at least one. -/
def readItems (fuel : Nat) (cs : List Symbol) :
    List Json × Option Flaw × Option (List Symbol) :=
  match fuel with
  | 0 => ([], some Fault.malformed.flaw, none)
  | fuel + 1 =>
    match readValue fuel cs with
    | (item, none) => ([item], none, none)
    | (item, some rest) =>
      match skipBlanks rest with
      | .char ']' :: rest => ([item], none, some rest)
      | .char ',' :: rest =>
        let (items, ending, rest) := readItems fuel rest
        (item :: items, ending, rest)
      | rest => ([item], some (faultAt rest).flaw, none)

/-- Reads the members of an object, of which there is at least one. -/
def readMembers (fuel : Nat) (cs : List Symbol) :
    List (Option String × Json) × Option Flaw × Option (List Symbol) :=
  match fuel with
  | 0 => ([], some Fault.malformed.flaw, none)
  | fuel + 1 =>
    match skipBlanks cs with
    | .char '"' :: rest =>
      match readText rest with
      | .broken flaw => ([], some flaw, none)
      | .read key rest =>
        let key := key.map String.ofList
        match skipBlanks rest with
        | .char ':' :: rest =>
          match readValue fuel rest with
          | (value, none) => ([(key, value)], none, none)
          | (value, some rest) =>
            match skipBlanks rest with
            | .char '\x7d' :: rest => ([(key, value)], none, some rest)
            | .char ',' :: rest =>
              let (members, ending, rest) := readMembers fuel rest
              ((key, value) :: members, ending, rest)
            | rest => ([(key, value)], some (faultAt rest).flaw, none)
        | rest => ([(key, broken (faultAt rest).flaw)], none, none)
    | rest => ([], some (faultAt rest).flaw, none)

end

end Json

/-- Reads a document. -/
def Document.ofSymbols (cs : List Text.Symbol) : Document :=
  match Json.readValue (2 * cs.length + 2) cs with
  | (value, none) => ⟨value, false⟩
  | (value, some rest) => ⟨value, !(Json.skipBlanks rest).isEmpty⟩

/-- Reads a document from its bytes. -/
def Document.ofBytes (bytes : List UInt8) : Document :=
  Document.ofSymbols (Text.symbols bytes)

end TailnetTargets
