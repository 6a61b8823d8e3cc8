/-
  Bytes as text.

  * `Symbol`: a character, or a byte which belongs to no character;
  * `symbols` cuts bytes into symbols: as long as a character is encoded at the current byte it is
    taken, and otherwise the byte stands alone.

  `symbols_utf8`: the symbols of an encoded text are its characters.
-/

namespace TailnetTargets.Text

/-- A piece of a text in UTF-8. -/
inductive Symbol where
  /-- a character -/
  | char (c : Char)
  /-- a byte which belongs to no character -/
  | stray
deriving DecidableEq, Repr

/-- The number of bytes of a symbol. -/
def Symbol.size : Symbol → Nat
  | char c => c.utf8Size
  | stray => 1

/-- The character which is encoded at the head of bytes. -/
def headChar? (bytes : List UInt8) : Option Char :=
  (bytes.take 4).toByteArray.utf8DecodeChar? 0

/-- The symbols of bytes, where the first bytes belong to a character which was taken already. -/
def symbolsAfter : Nat → List UInt8 → List Symbol
  | _, [] => []
  | skip + 1, _ :: rest => symbolsAfter skip rest
  | 0, byte :: rest =>
    match headChar? (byte :: rest) with
    | some c => .char c :: symbolsAfter (c.utf8Size - 1) rest
    | none => .stray :: symbolsAfter 0 rest

/-- The symbols of bytes. -/
def symbols (bytes : List UInt8) : List Symbol := symbolsAfter 0 bytes

/-- The bytes of a text. -/
def utf8 (cs : List Char) : List UInt8 := cs.flatMap String.utf8EncodeChar

/-- The bytes of a character are passed over. -/
theorem symbolsAfter_append (bytes rest : List UInt8) :
    symbolsAfter bytes.length (bytes ++ rest) = symbolsAfter 0 rest := by
  induction bytes with
  | nil => rfl
  | cons b bs ih => simpa [symbolsAfter] using ih

/-- The character at the head of its encoding. -/
theorem headChar?_utf8EncodeChar (c : Char) (rest : List UInt8) :
    headChar? (String.utf8EncodeChar c ++ rest) = some c := by
  have hlen : (String.utf8EncodeChar c).length ≤ 4 := by
    rw [String.length_utf8EncodeChar]; exact Char.utf8Size_le_four c
  rw [headChar?, List.take_append, List.take_of_length_le hlen, List.toByteArray_append]
  exact ByteArray.utf8DecodeChar?_utf8EncodeChar_append

/-- The symbols of an encoded character and what follows. -/
theorem symbols_utf8EncodeChar (c : Char) (rest : List UInt8) :
    symbols (String.utf8EncodeChar c ++ rest) = .char c :: symbols rest := by
  have hhead := headChar?_utf8EncodeChar c rest
  have hlen := String.length_utf8EncodeChar c
  have hpos := Char.utf8Size_pos c
  cases hb : String.utf8EncodeChar c with
  | nil => simp [hb] at hlen; omega
  | cons b bs =>
    rw [hb] at hhead hlen
    have hskip : c.utf8Size - 1 = bs.length := by simp at hlen; omega
    simp only [symbols, List.cons_append, symbolsAfter] at *
    rw [hhead]
    simp [hskip, symbolsAfter_append]

/-- The symbols of an encoded text are its characters. -/
theorem symbols_utf8 (cs : List Char) : symbols (utf8 cs) = cs.map .char := by
  induction cs with
  | nil => rfl
  | cons c cs ih =>
    simp only [utf8, List.flatMap_cons, List.map_cons]
    rw [symbols_utf8EncodeChar]
    exact congrArg _ ih

end TailnetTargets.Text
