/-
  Percent-encoding.

  * `percentByte` writes a byte as `%` and two upper-case hexadecimal digits;
  * `encodeWhere` writes the characters of a class, and all which are not ASCII, as the bytes of
    their UTF-8 form;
  * `inPath`, `inQuery`, `inFragment`, `isControl` are the classes of the parts of an address;
  * `percentDecode` gives the bytes which a text stands for;
  * `formEncode` writes the pairs of a form.
-/
import TailnetTargets.Text.Digit

namespace TailnetTargets.Percent

open Text

/-- An upper-case hexadecimal digit. -/
def hexDigit (n : Nat) : Char := (Nat.digitChar n).toUpper

/-- A byte as a percent sign and two digits. -/
def percentByte (b : UInt8) : List Char := ['%', hexDigit (b.toNat / 16), hexDigit (b.toNat % 16)]

/-- A character as the bytes of its UTF-8 form. -/
def percentChar (c : Char) : List Char := (String.utf8EncodeChar c).flatMap percentByte

/-- A text in which the characters of a class, and all which are not ASCII, are encoded. -/
def encodeWhere (encoded : Char → Bool) (cs : List Char) : List Char :=
  cs.flatMap fun c => if encoded c || 0x7f ≤ c.toNat then percentChar c else [c]

/-- The controls. -/
def isControl (c : Char) : Bool := c.toNat < 0x20

/-- The characters which are encoded in a fragment. -/
def inFragment (c : Char) : Bool :=
  isControl c || c = ' ' || c = '"' || c = '<' || c = '>' || c.toNat = 0x60

/-- The characters which are encoded in a query. -/
def inQuery (c : Char) : Bool :=
  isControl c || c = ' ' || c = '"' || c = '#' || c = '<' || c = '>'

/-- The characters which are encoded in the query of an address of the web. -/
def inWebQuery (c : Char) : Bool := inQuery c || c.toNat = 0x27

/-- The characters which are encoded in a path. -/
def inPath (c : Char) : Bool :=
  inQuery c || c = '?' || c.toNat = 0x60 || c = '\x7b' || c = '\x7d'

/-- The bytes which a text stands for, where the first characters belong to a byte which was taken
    already. -/
def percentDecodeAfter : Nat → List Char → List UInt8
  | _, [] => []
  | skip + 1, _ :: rest => percentDecodeAfter skip rest
  | 0, c :: rest =>
    match c, rest with
    | '%', a :: b :: _ =>
      match number? 16 [a, b] with
      | some n => UInt8.ofNat n :: percentDecodeAfter 2 rest
      | none => String.utf8EncodeChar c ++ percentDecodeAfter 0 rest
    | _, _ => String.utf8EncodeChar c ++ percentDecodeAfter 0 rest

/-- The bytes which a text stands for. -/
def percentDecode (cs : List Char) : List UInt8 := percentDecodeAfter 0 cs

/-! ## Forms -/

/-- Whether a character stands for itself in a form. -/
def isFormPlain (c : Char) : Bool :=
  c.isAlphanum || c = '*' || c = '-' || c = '.' || c = '_'

/-- A text in a form: a blank becomes a plus sign. -/
def formText (s : String) : List Char :=
  s.toList.flatMap fun c =>
    if isFormPlain c then [c] else if c = ' ' then ['+'] else percentChar c

/-- A pair of a form. -/
def formPair (pair : String × String) : List Char := formText pair.1 ++ '=' :: formText pair.2

/-- The pairs of a form with ampersands between them. -/
def formChars : List (String × String) → List Char
  | [] => []
  | [pair] => formPair pair
  | pair :: rest => formPair pair ++ '&' :: formChars rest

/-- The text of a form. -/
def formEncode (pairs : List (String × String)) : String := String.ofList (formChars pairs)

end TailnetTargets.Percent
