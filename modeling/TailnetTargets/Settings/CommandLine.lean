/-
  Command lines.

  A command line is read word by word.  A word which starts with two hyphens names an option; the
  value of an option stands behind an equals sign or is the next word, unless that starts with a
  hyphen.  An option which is not given takes its value from a variable of the environment.

  * `UsageError`: why a command line is not followed, with the wish for help or for the version
    among the reasons;
  * `CommandOption α`: an option which changes an `α`;
  * `CommandOption.takeWords` reads the words, `CommandOption.ofVariables` the variables, and
    `CommandOption.readAll` both.

  The value of an option which is a word of its own is looked at only when the next option has been
  recognised; so an unknown word after it is noticed first.
-/
import TailnetTargets.Duration.Parser

namespace TailnetTargets

/-- Why a command line is not followed. -/
inductive UsageError where
  /-- a word which is no option and no value -/
  | unknownArgument
  /-- a value which is missing, or which is none of those allowed -/
  | invalidValue
  /-- a value which cannot be read -/
  | unreadableValue
  /-- a value for an option which takes none -/
  | surplusValue
  /-- an option which is given twice -/
  | repeatedOption
  /-- help is wanted -/
  | help
  /-- the version is wanted -/
  | version
deriving DecidableEq, Repr

/-- An option which changes an `α`. -/
structure CommandOption (α : Type) where
  /-- the name without its hyphens -/
  name : String
  /-- the variable which gives the value if the option does not occur -/
  variableName : String
  /-- whether the option takes no value on the command line -/
  isFlag : Bool
  /-- reads a value -/
  read : String → Except UsageError (α → α)

namespace CommandOption

variable {α : Type}

/-! ## Kinds of options -/

/-- An option whose value is any text. -/
def text (name variableName : String) (put : String → α → α) : CommandOption α :=
  ⟨name, variableName, false, fun s => .ok (put s)⟩

/-- An option whose value is a path, which is not empty. -/
def path (name variableName : String) (put : String → α → α) : CommandOption α :=
  ⟨name, variableName, false, fun s => if s.isEmpty then .error .invalidValue else .ok (put s)⟩

/-- An option whose value is a span of time. -/
def duration (name variableName : String) (put : Duration → α → α) : CommandOption α :=
  ⟨name, variableName, false, fun s =>
    match Duration.ofText? s with
    | some d => .ok (put d)
    | none => .error .unreadableValue⟩

/-- An option without a value on the command line; the variable is `true` or `false`. -/
def flag (name variableName : String) (put : Bool → α → α) : CommandOption α :=
  ⟨name, variableName, true, fun s =>
    if s = "true" then .ok (put true)
    else if s = "false" then .ok (put false)
    else .error .invalidValue⟩

/-! ## Words -/

/-- What the words so far have said. -/
structure Progress (α : Type) where
  /-- the result so far -/
  result : α
  /-- the names of the options which were given -/
  given : List String := []
  /-- the option which was named last, with its value if that was already read -/
  pending : Option (CommandOption α × Option String) := none

namespace Progress

/-- Gives an option a value. -/
def give (p : Progress α) (option : CommandOption α) (value : String) :
    Except UsageError (Progress α) := do
  if p.given.contains option.name then throw .repeatedOption
  let put ← option.read value
  return { p with result := put p.result, given := option.name :: p.given }

/-- Gives the option which was named last its value. -/
def settle (p : Progress α) : Except UsageError (Progress α) :=
  match p.pending with
  | none => .ok p
  | some (_, none) => .error .invalidValue
  | some (option, some value) => { p with pending := none }.give option value

end Progress

/-- What a word says. -/
inductive Word where
  /-- two hyphens: no options follow -/
  | separator
  /-- an option by its name, perhaps with its value -/
  | option (name : String) (value : Option String)
  /-- options by single letters, the first of which counts -/
  | letter (c : Char)
  /-- something else -/
  | plain

/-- What a word says. -/
def Word.ofString (word : String) : Word :=
  match word.toList with
  | ['-', '-'] => .separator
  | '-' :: '-' :: rest =>
    let name := String.ofList (rest.takeWhile (· ≠ '='))
    match rest.dropWhile (· ≠ '=') with
    | _ :: value => .option name (some (String.ofList value))
    | [] => .option name none
  | '-' :: c :: _ => .letter c
  | _ => .plain

/-- Follows an option. -/
def takeOption (options : List (CommandOption α)) (p : Progress α) (name : String)
    (value : Option String) : Except UsageError (Progress α) :=
  if name = "help" ∨ name = "version" then
    match value with
    | some _ => .error .surplusValue
    | none => do
      let _ ← p.settle
      throw (if name = "help" then .help else .version)
  else
    match options.find? (·.name = name), value with
    | none, _ => .error .unknownArgument
    | some option, some value =>
      if option.isFlag then .error .surplusValue
      else do (← p.settle).give option value
    | some option, none => do
      let p ← p.settle
      if option.isFlag then p.give option "true"
      else return { p with pending := some (option, none) }

/-- Reads the words of a command line. -/
def takeWords (options : List (CommandOption α)) (p : Progress α) :
    List String → Except UsageError (Progress α)
  | [] => p.settle
  | word :: rest =>
    match Word.ofString word with
    | .separator => if rest.isEmpty then p.settle else .error .unknownArgument
    | .option name value => do takeWords options (← takeOption options p name value) rest
    | .letter 'h' => do takeWords options (← takeOption options p "help" none) rest
    | .letter 'V' => do takeWords options (← takeOption options p "version" none) rest
    | .letter _ => .error .unknownArgument
    | .plain =>
      match p.pending with
      | some (option, none) =>
        takeWords options { p with pending := some (option, some word) } rest
      | _ => .error .unknownArgument

/-! ## Variables -/

/-- Gives the options which were not given the values of their variables. -/
def ofVariables (vars : List (String × String)) (given : List String) (result : α) :
    List (CommandOption α) → Except UsageError α
  | [] => .ok result
  | option :: rest =>
    match given.contains option.name, vars.lookup option.variableName with
    | false, some value => do
      let put ← option.read value
      ofVariables vars given (put result) rest
    | _, _ => ofVariables vars given result rest

/-- Reads the words of a command line, and then the variables of the environment. -/
def readAll (options : List (CommandOption α)) (start : α) (words : List String)
    (vars : List (String × String)) : Except UsageError α := do
  let p ← takeWords options { result := start } words
  ofVariables vars p.given p.result options

end CommandOption

end TailnetTargets
