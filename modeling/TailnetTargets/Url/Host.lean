/-
  Hosts of addresses.

  * `Host`: a domain name, an address of either family, or a name which is not looked into;
  * `Host.ofWebText?` reads the host of an address of the web: escapes are resolved, letters become
    small, a name in other characters takes its ASCII form, and a name which ends in a number has to
    be an IPv4 address, whose parts may be decimal, octal or hexadecimal and may be left out;
  * `Host.ofOtherText?` reads the host of another address;
  * `Host.text` writes a host.
-/
import TailnetTargets.Address.Parser
import TailnetTargets.Address.Printer
import TailnetTargets.Text.Lowercase
import TailnetTargets.Url.Percent
import TailnetTargets.Url.Punycode

namespace TailnetTargets

open Text

/-- The host of an address. -/
inductive Host where
  /-- a domain name -/
  | domain (name : List Char)
  /-- an IPv4 address -/
  | ipv4 (ip : IPv4)
  /-- an IPv6 address -/
  | ipv6 (ip : IPv6)
  /-- a name which is not looked into -/
  | other (name : List Char)
deriving DecidableEq, Repr

namespace Host

/-- The text of a host. -/
def chars : Host → List Char
  | domain name | other name => name
  | ipv4 ip => ip.chars
  | ipv6 ip => '[' :: ip.hexChars ++ [']']

/-- Whether a character cannot stand in a host. -/
def isForbidden (c : Char) : Bool :=
  c.toNat = 0 || [' ', '\t', '\n', '\r', '#', '/', ':', '<', '>', '?', '@', '[', '\\', ']', '^',
    '|'].contains c

/-- Whether a character cannot stand in a domain name. -/
def isForbiddenInDomain (c : Char) : Bool :=
  isForbidden c || c.toNat < 0x20 || c = '%' || c.toNat = 0x7f

/-! ## IPv4 addresses as hosts -/

/-- The value of a part of an IPv4 address. -/
def ipv4Part? (cs : List Char) : Option Nat :=
  match cs with
  | '0' :: 'x' :: digits | '0' :: 'X' :: digits =>
    if digits.isEmpty then some 0 else number? 16 digits
  | '0' :: digits => if digits.isEmpty then some 0 else number? 8 digits
  | _ => number? 10 cs

/-- The labels of a name, where an empty one at the end does not count. -/
def labels (name : List Char) : List (List Char) :=
  let parts := fields '.' name
  if 1 < parts.length ∧ parts.getLast? = some [] then parts.dropLast else parts

/-- Whether a name ends in a number. -/
def endsInNumber (name : List Char) : Bool :=
  match (labels name).getLast? with
  | none => false
  | some part =>
    (!part.isEmpty && part.all Char.isDigit) ||
      match part with
      | '0' :: 'x' :: digits | '0' :: 'X' :: digits => digits.all fun c => (hexValue? c).isSome
      | _ => false

/-- The number of an IPv4 address: every part but the last is an octet, and the last one fills the
    octets which are left. -/
def ipv4Number? (parts : List Nat) : Option Nat := do
  let last ← parts.getLast?
  let octets := parts.dropLast
  guard (parts.length ≤ 4 ∧ octets.all (· < 256) ∧ last < Nat.pow 256 (5 - parts.length))
  return octets.foldl (fun n octet => n * 256 + octet) 0 * Nat.pow 256 (4 - octets.length) + last

/-- The IPv4 address with a number. -/
def ofNumber (n : Nat) : IPv4 :=
  ⟨UInt8.ofNat (n / 0x1000000), UInt8.ofNat (n / 0x10000), UInt8.ofNat (n / 0x100), UInt8.ofNat n⟩

/-- The IPv4 address which a name is. -/
def ipv4OfName? (name : List Char) : Option IPv4 := do
  let parts ← (labels name).mapM ipv4Part?
  (ipv4Number? parts).map ofNumber

/-! ## Hosts of any kind -/

/-- The host in square brackets. -/
def bracketed? (cs : List Char) : Option Host :=
  match cs.getLast? with
  | some ']' => (IPv6.ofChars? cs.dropLast).map .ipv6
  | _ => none

/-- The characters of bytes, if they are a text. -/
def textOf? (bytes : List UInt8) : Option (List Char) :=
  (String.fromUTF8? bytes.toByteArray).map String.toList

/-- The ASCII form of a domain name. -/
def asciiName (name : List Char) : List Char :=
  joinWith '.' ((fields '.' (lowerAfter [] name)).map Punycode.encode)

/-- The host of an address of the web. -/
def ofWebText? (cs : List Char) : Option Host :=
  match cs with
  | '[' :: rest => bracketed? rest
  | _ => do
    let name := asciiName (← textOf? (Percent.percentDecode cs))
    guard (!name.isEmpty && !name.any isForbiddenInDomain)
    if endsInNumber name then (ipv4OfName? name).map .ipv4 else some (.domain name)

/-- The host of another address. -/
def ofOtherText? (cs : List Char) : Option Host :=
  match cs with
  | '[' :: rest => bracketed? rest
  | _ =>
    if cs.any isForbidden then none
    else some (.other (Percent.encodeWhere Percent.isControl cs))

end Host

end TailnetTargets
