/-
  What a program tells about its work.

  * `LogLevel`: how much a line matters, and `LogLevel.rank` how much has to be wanted for a line to
    be written;
  * `LogLine`: a line with the subject to which it belongs;
  * `LogDirective`: which lines of which subjects are wanted;
  * `LogFilter`: a list of directives.  Of those whose subject begins that of a line, the longest
    decides, and of equal ones the last (`LogFilter.admits`);
  * `LogFilter.ofText?` reads directives such as `warn,store::disk=debug`.

  A directive may be limited to a section, which is written in square brackets.  The programs write
  all of their lines outside of sections, so such a directive wants none of them.
-/
import TailnetTargets.Text.Digit
import TailnetTargets.Text.Fields

namespace TailnetTargets

/-- How much a line matters. -/
inductive LogLevel where
  /-- something failed -/
  | error
  /-- something may be wrong -/
  | warn
  /-- something of interest happened -/
  | info
  /-- something that helps to find mistakes -/
  | debug
  /-- anything else -/
  | trace
deriving DecidableEq, Repr

namespace LogLevel

/-- How much has to be wanted for a line to be written. -/
def rank : LogLevel → Nat
  | error => 1
  | warn => 2
  | info => 3
  | debug => 4
  | trace => 5

/-- The name under which a level is written. -/
def text : LogLevel → String
  | error => "ERROR"
  | warn => "WARN"
  | info => "INFO"
  | debug => "DEBUG"
  | trace => "TRACE"

/-- How much is wanted, by name or number; nothing at all is `off`. -/
def limitOfText? (s : String) : Option Nat :=
  match s.toLower with
  | "off" | "0" => some 0
  | "error" | "1" => some error.rank
  | "warn" | "2" => some warn.rank
  | "info" | "3" => some info.rank
  | "debug" | "4" => some debug.rank
  | "trace" | "5" => some trace.rank
  | _ => none

end LogLevel

/-- A line which tells about the work of a program. -/
structure LogLine where
  /-- how much the line matters -/
  level : LogLevel
  /-- what the line belongs to -/
  subject : String
  /-- what the line says -/
  message : String
deriving DecidableEq, Repr

/-- Which lines of which subjects are wanted. -/
structure LogDirective where
  /-- what the subject begins with -/
  subject : String
  /-- how much is wanted -/
  limit : Nat
  /-- whether lines in sections only are wanted -/
  isSectional : Bool := false
deriving DecidableEq, Repr

namespace LogDirective

/-- Whether a character may stand in a subject. -/
def isSubjectChar (c : Char) : Bool := c.isAlphanum || c = '_' || c = ':' || c = '-' || !c.val < 128

/-- A subject or a section at the start of a text, with what follows it. -/
def takePart (cs : List Char) : Option (Option String × List Char) :=
  match cs with
  | '[' :: rest =>
    match rest.dropWhile (· ≠ ']') with
    | _ :: rest => some (none, rest)
    | [] => none
  | _ =>
    match cs.takeWhile isSubjectChar with
    | [] => none
    | name => some (some (String.ofList name), cs.dropWhile isSubjectChar)

/-- How much is wanted by what follows the subject: everything, unless a level is named. -/
def takeLimit : List Char → Option Nat
  | [] | ['='] => some LogLevel.trace.rank
  | '=' :: level => LogLevel.limitOfText? (String.ofList level)
  | _ => none

/-- A directive with at most two parts and a level. -/
def ofParts? (cs : List Char) : Option LogDirective := do
  let (first, rest) ← takePart cs
  let (second, rest) := (takePart rest).getD (first, rest)
  let limit ← takeLimit rest
  let subject := (first <|> second).getD ""
  return ⟨if (LogLevel.limitOfText? subject).isSome then "" else subject, limit,
    first.isNone || second.isNone⟩

/-- The directive which a text stands for. -/
def ofText? (cs : List Char) : Option LogDirective :=
  match LogLevel.limitOfText? (String.ofList cs) with
  | some limit => some ⟨"", limit, false⟩
  | none => ofParts? cs

end LogDirective

/-- Which lines are wanted. -/
structure LogFilter where
  /-- the directives -/
  directives : List LogDirective
deriving DecidableEq, Repr

namespace LogFilter

/-- The directives which a text stands for, separated by commas.  No directives at all want errors
    only. -/
def ofText? (s : String) : Option LogFilter := do
  let texts := (Text.fields ',' s.toList).filter fun cs => !cs.isEmpty
  match ← texts.mapM LogDirective.ofText? with
  | [] => return ⟨[⟨"", LogLevel.error.rank, false⟩]⟩
  | directives => return ⟨directives⟩

/-- The directive which decides about a subject. -/
def decisive? (f : LogFilter) (subject : String) : Option LogDirective :=
  let candidates := f.directives.filter fun d => !d.isSectional && subject.startsWith d.subject
  candidates.foldl
    (fun best d =>
      if best.all fun b => b.subject.utf8ByteSize ≤ d.subject.utf8ByteSize then some d else best)
    none

/-- Whether a line is wanted. -/
def admits (f : LogFilter) (line : LogLine) : Bool :=
  (f.decisive? line.subject).any fun d => line.level.rank ≤ d.limit

/-- The lines which are wanted. -/
def select (f : LogFilter) (lines : List LogLine) : List LogLine := lines.filter f.admits

end LogFilter

end TailnetTargets
