/-
  JSON documents, sound or not.

  A document is read as far as it goes.  What is wrong with it stays in the tree at the place
  where it was met, because whether it matters depends on who looks: a text with half a surrogate
  pair cannot be kept, but it can be skipped.

  * `Fault`: the document ends too early, or it breaks the grammar;
  * `Flaw`: the fault met when a value is kept, and the one met when it is skipped;
  * `Json`: the tree, where `broken` stands for a value which could not be read to its end, and
    where an array or an object without its closing bracket carries the flaw met instead of it;
  * `Json.skip` passes over a value: `none` if nothing in it is at fault;
  * `Document`: a value and whether anything but blanks follows it.
-/

namespace TailnetTargets

/-- What can be wrong with the text of a document. -/
inductive Fault where
  /-- the text ends where more is needed -/
  | unfinished
  /-- the text breaks the grammar -/
  | malformed
deriving DecidableEq, Repr

/-- What is wrong at a place of a document. -/
structure Flaw where
  /-- the fault met when the value is kept -/
  kept : Fault
  /-- the fault met when the value is skipped -/
  skipped : Fault
deriving DecidableEq, Repr

/-- The flaw which is the same for those who keep and those who skip. -/
def Fault.flaw (f : Fault) : Flaw := ⟨f, f⟩

/-- A JSON value.  The content of a text is `none` if it is no sequence of characters. -/
inductive Json where
  /-- nothing -/
  | null
  /-- a truth value -/
  | bool (b : Bool)
  /-- a number as it is spelled -/
  | number (spelling : List Char)
  /-- a text -/
  | text (content : Option String)
  /-- items, and what is wrong behind the last of them -/
  | array (items : List Json) (ending : Option Flaw)
  /-- keys with values, and what is wrong behind the last of them -/
  | object (members : List (Option String × Json)) (ending : Option Flaw)
  /-- a value which could not be read to its end -/
  | broken (flaw : Flaw)

/-- A value and whether anything but blanks follows it. -/
structure Document where
  /-- the value -/
  value : Json
  /-- whether anything but blanks follows -/
  trailing : Bool

namespace Json

instance : Inhabited Json := ⟨null⟩

/-- A text made of characters. -/
def string (s : String) : Json := text (some s)

/-- An array with its closing bracket. -/
def list (items : List Json) : Json := array items none

/-- An object with its closing bracket and keys made of characters. -/
def record (members : List (String × Json)) : Json :=
  object (members.map fun m => (some m.1, m.2)) none

mutual

/-- Passes over a value: the first fault in it, if there is one. -/
def skip : Json → Option Fault
  | null | bool _ | number _ | text _ => none
  | array items ending => skipItems items ending
  | object members ending => skipMembers members ending
  | broken flaw => some flaw.skipped

/-- Passes over the items of an array and its ending. -/
def skipItems : List Json → Option Flaw → Option Fault
  | [], ending => ending.map (·.skipped)
  | item :: rest, ending =>
    match skip item with
    | some fault => some fault
    | none => skipItems rest ending

/-- Passes over the members of an object and its ending. -/
def skipMembers : List (Option String × Json) → Option Flaw → Option Fault
  | [], ending => ending.map (·.skipped)
  | (_, value) :: rest, ending =>
    match skip value with
    | some fault => some fault
    | none => skipMembers rest ending

end

end Json

end TailnetTargets
