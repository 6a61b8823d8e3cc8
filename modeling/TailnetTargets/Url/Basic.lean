/-
  Addresses of resources.

  * `Url`: the parts of an address;
  * `Url.isWeb`: whether it belongs to a scheme of the web, of which `http` and `https` can be
    requested;
  * `Url.text` writes it, without the name of a user and without the number at which its scheme
    is served anyway.
-/
import TailnetTargets.Url.Host

namespace TailnetTargets

/-- The parts of an address. -/
structure Url where
  /-- the scheme in small letters -/
  scheme : List Char
  /-- the host, if there is one -/
  host : Option Host
  /-- the number at which the host is asked, if it is not that of the scheme -/
  gate : Option Nat
  /-- the path with its slashes -/
  path : List Char
  /-- the query -/
  query : Option (List Char)
  /-- the fragment -/
  fragment : Option (List Char)
deriving DecidableEq, Repr

namespace Url

/-- Whether addresses of a scheme have a host and a path, and which number serves it anyway. -/
def webScheme? (scheme : List Char) : Option (Option Nat) :=
  if scheme = "http".toList ∨ scheme = "ws".toList then some (some 80)
  else if scheme = "https".toList ∨ scheme = "wss".toList then some (some 443)
  else if scheme = "ftp".toList then some (some 21)
  else if scheme = "file".toList then some none
  else none

/-- Whether the address belongs to a scheme of the web. -/
def isWeb (u : Url) : Bool := (webScheme? u.scheme).isSome

/-- Whether the address is reached without encryption. -/
def isPlainWeb (u : Url) : Bool := u.scheme = "http".toList

/-- Whether the address is reached with encryption. -/
def isSecureWeb (u : Url) : Bool := u.scheme = "https".toList

/-- The host with the number at which it is asked. -/
def authority (u : Url) : List Char :=
  match u.host, u.gate with
  | some host, some n => host.chars ++ ':' :: Nat.toDigits 10 n
  | some host, none => host.chars
  | none, _ => []

/-- The address without its fragment. -/
def charsBeforeFragment (u : Url) : List Char :=
  u.scheme ++ ':' :: (if u.host.isSome then ['/', '/'] else []) ++ u.authority ++ u.path
    ++ (match u.query with
      | some query => '?' :: query
      | none => [])

/-- The text of an address. -/
def chars (u : Url) : List Char :=
  u.charsBeforeFragment ++
    match u.fragment with
    | some fragment => '#' :: fragment
    | none => []

/-- The text of an address. -/
def text (u : Url) : String := String.ofList u.chars

/-- The text of an address under which it is asked for: without its fragment. -/
def target (u : Url) : String := String.ofList u.charsBeforeFragment

end Url

end TailnetTargets
