/-
  Where the body of a message ends.

  * `Framing`: how the end of a body is known;
  * `Framing.read?` is the body at the start of bytes, unless it is cut short.  A body in pieces
    consists of lines with a length in hexadecimal, each followed by so many bytes, until a length
    of zero.

  `read?_exact_append`: a body of known length is found whatever follows it.
-/
import TailnetTargets.Message.Basic
import TailnetTargets.Text.Digit

namespace TailnetTargets.Message

/-- How the end of a body is known. -/
inductive Framing where
  /-- by its length -/
  | exact (length : Nat)
  /-- it comes in pieces which say how long they are -/
  | pieces
  /-- it goes on until the connection ends -/
  | untilEnd
deriving DecidableEq, Repr

namespace Framing

/-- What is too long for any message. -/
def lengthLimit : Nat := Nat.pow 2 64 - 2

/-- The line at the start of bytes, and what follows it. -/
def takeLine? : List UInt8 → Option (List Char × List UInt8)
  | 13 :: 10 :: rest => some ([], rest)
  | [] | 10 :: _ | 13 :: _ => none
  | b :: rest => (takeLine? rest).map fun (line, rest) => (Char.ofNat b.toNat :: line, rest)

/-- The length of a piece.  What follows a semicolon does not count. -/
def pieceLength? (line : List Char) : Option Nat :=
  let isDigit (c : Char) : Bool := (Text.hexValue? c).isSome
  match (line.dropWhile isDigit).dropWhile isGap with
  | [] | ';' :: _ => (Text.number? 16 (line.takeWhile isDigit)).filter (· < lengthLimit)
  | _ => none

/-- Whether bytes start with lines of which the last one, among the first `fuel`, is empty. -/
def endsInEmptyLine : Nat → List UInt8 → Bool
  | 0, _ => false
  | fuel + 1, bytes =>
    match takeLine? bytes with
    | none => false
    | some ([], _) => true
    | some (_ :: _, rest) => endsInEmptyLine fuel rest

/-- The body of at most `fuel` pieces at the start of bytes. -/
def readPieces? : Nat → List UInt8 → Option (List UInt8)
  | 0, _ => none
  | fuel + 1, bytes => do
    let (line, rest) ← takeLine? bytes
    match ← pieceLength? line with
    | 0 => if endsInEmptyLine rest.length rest then some [] else none
    | n =>
      match rest.drop n with
      | 13 :: 10 :: next => return rest.take n ++ (← readPieces? fuel next)
      | _ => none

/-- The body at the start of bytes, unless it is cut short. -/
def read? : Framing → List UInt8 → Option (List UInt8)
  | exact n, bytes => if n ≤ bytes.length then some (bytes.take n) else none
  | pieces, bytes => readPieces? bytes.length bytes
  | untilEnd, bytes => some bytes

/-- A body of known length is found whatever follows it. -/
theorem read?_exact_append (body rest : List UInt8) :
    (exact body.length).read? (body ++ rest) = some body := by
  simp [read?]

end Framing

end TailnetTargets.Message
