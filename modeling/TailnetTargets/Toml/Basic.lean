/-
  TOML documents as values, and how tables grow while a document is read.

  * `Toml`: a value;
  * `TomlNode`: a value or a table which may still grow.  A table is `implied` if it exists only
    because a longer key goes through it, and `dotted` if that was the key of a value;
  * `within?` changes the table to which a path leads, and creates the tables on the way;
  * `define?` gives a key a value, `open?` opens a table and `openElement?` a new element of an
    array of tables.  They refuse what would define something twice.
-/

namespace TailnetTargets

/-- A TOML value. -/
inductive Toml where
  /-- a text -/
  | text (s : String)
  /-- an integer -/
  | integer (n : Int)
  /-- a floating-point number as it is spelled -/
  | float (spelling : List Char)
  /-- a truth value -/
  | bool (b : Bool)
  /-- a date, a time or both, as they are spelled -/
  | moment (spelling : List Char)
  /-- an array -/
  | array (items : List Toml)
  /-- a table -/
  | table (entries : List (String × Toml))

/-- A value or a table which may still grow. -/
inductive TomlNode where
  /-- a value -/
  | value (v : Toml)
  /-- a table -/
  | table (implied dotted : Bool) (entries : List (String × TomlNode))
  /-- an array of tables -/
  | tables (elements : List (List (String × TomlNode)))

/-- The entries of a table which may still grow. -/
abbrev TomlEntries := List (String × TomlNode)

namespace TomlNode

instance : Inhabited TomlNode := ⟨table true false []⟩

mutual

/-- The value which a node has become. -/
def toToml : TomlNode → Toml
  | value v => v
  | table _ _ entries => .table (entriesToToml entries)
  | tables elements => .array (elementsToToml elements)

/-- The values which entries have become. -/
def entriesToToml : List (String × TomlNode) → List (String × Toml)
  | [] => []
  | (key, node) :: rest => (key, toToml node) :: entriesToToml rest

/-- The values which the elements of an array of tables have become. -/
def elementsToToml : List (List (String × TomlNode)) → List Toml
  | [] => []
  | entries :: rest => .table (entriesToToml entries) :: elementsToToml rest

end

end TomlNode

namespace TomlEntries

/-- The node of a key. -/
def get? (entries : TomlEntries) (key : String) : Option TomlNode := entries.lookup key

/-- The entries with the node of a key set. -/
def set (entries : TomlEntries) (key : String) (node : TomlNode) : TomlEntries :=
  if (entries.get? key).isSome then
    entries.map fun e => if e.1 = key then (key, node) else e
  else entries ++ [(key, node)]

/-- Changes the table to which a path leads.  The change learns whether that table is dotted.
    Tables which do not exist are created, dotted if the path is part of the key of a value; such a
    path goes through no table which was opened by its own name. -/
def within? (path : List String) (dotted : Bool) (change : Bool → TomlEntries → Option TomlEntries)
    (isDotted : Bool) (entries : TomlEntries) : Option TomlEntries :=
  match path with
  | [] => change isDotted entries
  | key :: path =>
    match get? entries key with
    | none => do
      let inner ← within? path dotted change dotted []
      return entries.set key (.table true dotted inner)
    | some (.value _) => none
    | some (.table implied d inner) => do
      guard (!dotted || implied)
      let inner ← within? path dotted change d inner
      return entries.set key (.table implied d inner)
    | some (.tables elements) => do
      let last ← elements.getLast?
      let inner ← within? path dotted change false last
      return entries.set key (.tables (elements.dropLast ++ [inner]))

/-- Gives the last key of a path a value, in the table to which the other keys lead. -/
def define? (path : List String) (v : Toml) (entries : TomlEntries) : Option TomlEntries := do
  let key ← path.getLast?
  let way := path.dropLast
  within? way true
    (fun isDotted inner => do
      guard (isDotted = !way.isEmpty ∧ (get? inner key).isNone)
      return inner.set key (.value v))
    false entries

/-- Opens the table to which a path leads. -/
def open? (path : List String) (entries : TomlEntries) : Option TomlEntries := do
  let key ← path.getLast?
  within? path.dropLast false
    (fun _ inner =>
      match get? inner key with
      | none => some (inner.set key (.table false false []))
      | some (.table true false found) => some (inner.set key (.table false false found))
      | some _ => none)
    false entries

/-- Opens a new element of the array of tables to which a path leads. -/
def openElement? (path : List String) (entries : TomlEntries) : Option TomlEntries := do
  let key ← path.getLast?
  within? path.dropLast false
    (fun _ inner =>
      match get? inner key with
      | none => some (inner.set key (.tables [[]]))
      | some (.tables elements) => some (inner.set key (.tables (elements ++ [[]])))
      | some _ => none)
    false entries

/-- Gives a key a value inside the table which was opened last. -/
def defineIn? (opened : List String) (path : List String) (v : Toml) (entries : TomlEntries) :
    Option TomlEntries :=
  within? opened false (fun _ inner => define? path v inner) false entries

end TomlEntries

end TailnetTargets
