/-
  Reading addresses as browsers do.

  Controls and blanks at both ends, tabs and ends of lines anywhere do not count.  In an address of
  the web a backslash is a slash, any number of slashes may stand before the host, and the segments
  `.` and `..` of the path are resolved.

  * `takeScheme?` cuts the scheme off;
  * `authority?` reads the host and its number, and drops the name of a user;
  * `normalPath` encodes the segments of a path and resolves those of dots;
  * `ofFile?` reads what follows the scheme of a file, which may have no host;
  * `Url.ofText?` reads an address.
-/
import TailnetTargets.Url.Basic

namespace TailnetTargets.Url

open Text Percent

/-- The characters which count. -/
def significant (cs : List Char) : List Char :=
  let isEdge (c : Char) := decide (c.toNat ≤ 0x20)
  let trimmed := ((cs.dropWhile isEdge).reverse.dropWhile isEdge).reverse
  trimmed.filter fun c => c ≠ '\t' ∧ c ≠ '\n' ∧ c ≠ '\r'

/-- The scheme in small letters, and what follows its colon. -/
def takeScheme? (cs : List Char) : Option (List Char × List Char) :=
  let isSchemeChar (c : Char) := c.isAlphanum || c = '+' || c = '-' || c = '.'
  let scheme := cs.takeWhile isSchemeChar
  match scheme, cs.drop scheme.length with
  | c :: _, ':' :: rest => if c.isAlpha then some (scheme.map Char.toLower, rest) else none
  | _, _ => none

/-- Whether a character separates segments of a path. -/
def isSlash (web : Bool) (c : Char) : Bool := c = '/' || (web && c = '\\')

/-! ## Hosts and their numbers -/

/-- What follows the last `@` of a text. -/
def afterUser (cs : List Char) : List Char :=
  if cs.contains '@' then (cs.reverse.takeWhile (· ≠ '@')).reverse else cs

/-- A text cut at the colon before the number: the last one outside of square brackets. -/
def cutAtGate (cs : List Char) : List Char × Option (List Char) :=
  let tail := (cs.reverse.takeWhile fun c => c ≠ ':' ∧ c ≠ ']').reverse
  match cs.take (cs.length - tail.length) with
  | [] => (cs, none)
  | front => if front.getLast? = some ':' then (front.dropLast, some tail) else (cs, none)

/-- The number at which a host is asked: `some none` if none is written. -/
def gate? (digits : Option (List Char)) : Option (Option Nat) :=
  match digits with
  | none | some [] => some none
  | some digits => do
    let n ← number? 10 digits
    if n < 65536 then some (some n) else none

/-- The host and the number at which it is asked. -/
def authority? (scheme : List Char) (cs : List Char) : Option (Host × Option Nat) :=
  let (name, digits) := cutAtGate (afterUser cs)
  match webScheme? scheme with
  | some standard => do
    let host ← Host.ofWebText? name
    let n ← gate? digits
    return (host, if n = standard then none else n)
  | none => do
    let host ← Host.ofOtherText? name
    return (host, ← gate? digits)

/-! ## Paths -/

/-- The segments of a text. -/
def segments (web : Bool) (cs : List Char) : List (List Char) :=
  fields '/' (if web then cs.map fun c => if c = '\\' then '/' else c else cs)

/-- A segment with escaped dots resolved. -/
def undot : List Char → List Char
  | '%' :: '2' :: 'e' :: rest => '.' :: undot rest
  | '%' :: '2' :: 'E' :: rest => '.' :: undot rest
  | c :: rest => c :: undot rest
  | [] => []

/-- The segments of a path behind those which were taken already, without those of dots. -/
def resolve (taken : List (List Char)) : List (List Char) → List (List Char)
  | [] => taken
  | segment :: rest =>
    let last := rest.isEmpty
    if undot segment = ['.', '.'] then
      resolve (if last then taken.dropLast ++ [[]] else taken.dropLast) rest
    else if undot segment = ['.'] then resolve (if last then taken ++ [[]] else taken) rest
    else resolve (taken ++ [encodeWhere inPath segment]) rest

/-- The path which a text with a slash at its head writes. -/
def normalPath (web : Bool) (cs : List Char) : List Char :=
  match segments web cs with
  | [] | [_] => if web then ['/'] else []
  | _ :: rest => (resolve [] rest).flatMap fun segment => '/' :: segment

/-! ## Addresses -/

/-- A text cut at the first occurrence of a character. -/
def cutAt (c : Char) (cs : List Char) : List Char × Option (List Char) :=
  match cs.dropWhile (· ≠ c) with
  | [] => (cs, none)
  | _ :: rest => (cs.takeWhile (· ≠ c), some rest)

/-- The address of a scheme with a host: what follows the slashes before the host. -/
def ofHierarchy? (scheme : List Char) (cs : List Char) (query fragment : Option (List Char)) :
    Option Url := do
  let web := (webScheme? scheme).isSome
  let authority := cs.takeWhile fun c => !isSlash web c
  let (host, gate) ← authority? scheme authority
  return ⟨scheme, some host, gate, normalPath web (cs.drop authority.length), query, fragment⟩

/-- The host of a file, where this computer is no host. -/
def fileHost? (name : List Char) : Option Host :=
  if name.isEmpty then some (.domain [])
  else (Host.ofWebText? name).map fun host =>
    if host = .domain "localhost".toList then .domain [] else host

/-- The address of a file: two slashes stand before the host, and otherwise there is none. -/
def ofFile? (scheme : List Char) (cs : List Char) (query fragment : Option (List Char)) :
    Option Url := do
  let slashes := ((cs.take 2).takeWhile (isSlash true)).length
  let rest := cs.drop slashes
  let name := if slashes = 2 then rest.takeWhile fun c => !isSlash true c else []
  let path := if slashes = 2 then rest.drop name.length else '/' :: rest
  return ⟨scheme, some (← fileHost? name), none, normalPath true path, query, fragment⟩

/-- The address which a text writes. -/
def ofText? (s : String) : Option Url := do
  let (scheme, rest) ← takeScheme? (significant s.toList)
  let web := (webScheme? scheme).isSome
  let (rest, fragment) := cutAt '#' rest
  let (rest, query) := cutAt '?' rest
  let fragment := fragment.map (encodeWhere inFragment)
  let query := query.map (encodeWhere (if web then inWebQuery else inQuery))
  if scheme = "file".toList then ofFile? scheme rest query fragment
  else if web then ofHierarchy? scheme (rest.dropWhile (isSlash true)) query fragment
  else
    match rest with
    | '/' :: '/' :: rest => ofHierarchy? scheme rest query fragment
    | '/' :: _ => some ⟨scheme, none, none, normalPath false rest, query, fragment⟩
    | _ => some ⟨scheme, none, none, encodeWhere isControl rest, query, fragment⟩

end TailnetTargets.Url
