/-
  Typed values out of JSON documents.

  A decoder looks at a value from left to right, and the first thing that is wrong decides.

  * `JsonError`: why a document does not have the wanted form;
  * `Decoder α`: a function from values to `α`;
  * `Decoder.string`, `bool`, `natural`, `list`, `keyMap`: decoders of plain values;
  * `Decoder.orElse` gives `null` a meaning;
  * `Format α`: a record as a list of fields.  `Format.decode` reads an object, in which members of
    other names are skipped and no field may occur twice, or an array with the fields in order;
  * `Decoder.run` decodes a document and wants nothing but blanks behind the value.
-/
import TailnetTargets.Json.Reader
import TailnetTargets.KeyMap

namespace TailnetTargets

/-- Why a document does not have the wanted form. -/
inductive JsonError where
  /-- a field which has no default is missing -/
  | missingField (name : String)
  /-- a field occurs twice -/
  | duplicateField (name : String)
  /-- the text of the document is at fault -/
  | fault (f : Fault)
  /-- a value has the wrong type -/
  | mismatch
deriving DecidableEq, Repr

/-- A way to read values of a type. -/
abbrev Decoder (α : Type) := Json → Except JsonError α

namespace Decoder

variable {α : Type}

/-- What is wrong with a value which is kept although its type is not the wanted one. -/
def unwanted : Json → JsonError
  | .broken flaw => .fault flaw.kept
  | .text none => .fault .malformed
  | .number spelling => if Numeral.isHuge spelling then .fault .malformed else .mismatch
  | _ => .mismatch

/-- A text. -/
def string : Decoder String
  | .text (some s) => .ok s
  | value => .error (unwanted value)

/-- A truth value. -/
def bool : Decoder Bool
  | .bool b => .ok b
  | value => .error (unwanted value)

/-- A natural number below a bound, spelled with digits alone. -/
def natural (bound : Nat) : Decoder Nat
  | .number spelling =>
    match Numeral.natural? spelling with
    | some n => if n < bound then .ok n else .error (unwanted (.number spelling))
    | none => .error (unwanted (.number spelling))
  | value => .error (unwanted value)

/-- A text with a meaning which not every text has. -/
def parsed (parse : String → Option α) : Decoder α := fun value => do
  match parse (← string value) with
  | some a => .ok a
  | none => .error .mismatch

/-- What is wrong where a list of items ends, if anything is. -/
def ended : Option Flaw → Except JsonError Unit
  | none => .ok ()
  | some flaw => .error (.fault flaw.kept)

/-- Items of one type. -/
def items (item : Decoder α) : List Json → Except JsonError (List α)
  | [] => .ok []
  | value :: rest => do
    let a ← item value
    let as ← items item rest
    return a :: as

/-- A list of items of one type. -/
def list (item : Decoder α) : Decoder (List α)
  | .array values ending => do
    let as ← items item values
    ended ending
    return as
  | value => .error (unwanted value)

/-- A key which is kept. -/
def key : Option String → Except JsonError String
  | some k => .ok k
  | none => .error (.fault .malformed)

/-- Members with values of one type, where the last value of a key counts. -/
def entries (value : Decoder α) (m : KeyMap α) :
    List (Option String × Json) → Except JsonError (KeyMap α)
  | [] => .ok m
  | (k, v) :: rest => do
    let k ← key k
    let a ← value v
    entries value (m.insert k a) rest

/-- A map from texts to values of one type. -/
def keyMap (value : Decoder α) : Decoder (KeyMap α)
  | .object members ending => do
    let m ← entries value KeyMap.empty members
    ended ending
    return m
  | v => .error (unwanted v)

/-- A value for which `null` stands, too. -/
def orElse (default : α) (decoder : Decoder α) : Decoder α
  | .null => .ok default
  | value => decoder value

/-- A value or `null`. -/
def nullable (decoder : Decoder α) : Decoder (Option α)
  | .null => .ok none
  | value => (decoder value).map some

/-- The value of a document behind which nothing but blanks follows. -/
def run (decoder : Decoder α) (document : Document) : Except JsonError α := do
  let a ← decoder document.value
  if document.trailing then .error (.fault .malformed) else .ok a

/-- The value of a document in bytes. -/
def ofBytes (decoder : Decoder α) (bytes : List UInt8) : Except JsonError α :=
  decoder.run (Document.ofBytes bytes)

end Decoder

/-! ## Records -/

/-- A field of a record: its name, a second name which it may have, and how its value is put into
    the record.  A field which is not required keeps the value that the record starts with. -/
structure Field (α : Type) where
  /-- the name -/
  name : String
  /-- the second name -/
  otherName : Option String := none
  /-- whether it has to occur -/
  required : Bool := false
  /-- reads its value and puts it into the record -/
  read : Json → Except JsonError (α → α)

/-- A record: what it is before any field is read, and its fields in order. -/
structure Format (α : Type) where
  /-- the record before any field is read -/
  start : α
  /-- the fields in order -/
  fields : List (Field α)

/-- The field whose value a decoder reads. -/
def Decoder.field {α β : Type} (decoder : Decoder β) (name : String) (put : β → α → α) : Field α :=
  { name, read := fun value => (decoder value).map put }

namespace Format

variable {α : Type}

/-- The field which a key names. -/
def field? (fmt : Format α) (key : String) : Option (Field α) :=
  fmt.fields.find? fun f => f.name = key ∨ f.otherName = some key

/-- Reads members into a record.  The names of the fields which were read already are `seen`. -/
def readMembers (fmt : Format α) (seen : List String) (record : α) :
    List (Option String × Json) → Except JsonError (List String × α)
  | [] => .ok (seen, record)
  | (key, value) :: rest => do
    let key ← Decoder.key key
    match fmt.field? key with
    | some f =>
      if seen.contains f.name then .error (.duplicateField f.name)
      else
        let put ← f.read value
        fmt.readMembers (f.name :: seen) (put record) rest
    | none =>
      match value.skip with
      | some fault => .error (.fault fault)
      | none => fmt.readMembers seen record rest

/-- The first field which has to occur and was not seen. -/
def missing? (fmt : Format α) (seen : List String) : Option (Field α) :=
  fmt.fields.find? fun f => f.required && !seen.contains f.name

/-- Reads items into a record, as the values of fields in order. -/
def readItems (record : α) (ending : Option Flaw) :
    List (Field α) → List Json → Except JsonError α
  | [], [] => do
    Decoder.ended ending
    return record
  | [], _ :: _ => .error (.fault .malformed)
  | f :: fields, value :: values => do
    let put ← f.read value
    readItems (put record) ending fields values
  | f :: fields, [] => do
    Decoder.ended ending
    if f.required then .error .mismatch else readItems record ending fields []

/-- Reads a record. -/
def decode (fmt : Format α) : Decoder α
  | .object members ending => do
    let (seen, record) ← fmt.readMembers [] fmt.start members
    Decoder.ended ending
    match fmt.missing? seen with
    | some f => .error (.missingField f.name)
    | none => .ok record
  | .array items ending => readItems fmt.start ending fmt.fields items
  | value => .error (Decoder.unwanted value)

end Format

end TailnetTargets
