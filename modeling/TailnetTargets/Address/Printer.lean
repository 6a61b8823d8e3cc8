/-
  The text of an address.

  * IPv4: the octets in decimal with dots between them;
  * IPv6: the groups in lower-case hexadecimal with colons between them, where the first of the
    longest runs of two or more zero groups is left out and leaves two colons; an IPv4-mapped
    address is written `::ffff:` and its four octets.
-/
import TailnetTargets.Address.Basic
import TailnetTargets.Text.Fields

namespace TailnetTargets

open Text

namespace IPv4

/-- The dotted quad. -/
def chars (ip : IPv4) : List Char :=
  joinWith '.' ([ip.a, ip.b, ip.c, ip.d].map fun octet => Nat.toDigits 10 octet.toNat)

/-- The dotted quad. -/
def text (ip : IPv4) : String := String.ofList ip.chars

end IPv4

namespace IPv6

/-- How many zero groups a list starts with. -/
def leadingZeros (groups : List UInt16) : Nat :=
  (groups.takeWhile (· == 0)).length

/-- The start and the length of the first of the longest runs of zero groups. -/
def longestZeros (groups : List UInt16) : Nat × Nat :=
  (List.range groups.length).foldl
    (fun best i =>
      let zeros := leadingZeros (groups.drop i)
      if best.2 < zeros then (i, zeros) else best)
    (0, 0)

/-- Groups in hexadecimal with colons between them. -/
def groupChars (groups : List UInt16) : List Char :=
  joinWith ':' (groups.map fun group => Nat.toDigits 16 group.toNat)

/-- The text of an IPv6 address in which all groups are hexadecimal. -/
def hexChars (ip : IPv6) : List Char :=
  let groups := ip.groups.toList
  let (start, count) := longestZeros groups
  if 2 ≤ count then
    groupChars (groups.take start) ++ [':', ':'] ++ groupChars (groups.drop (start + count))
  else
    groupChars groups

/-- The canonical text of an IPv6 address. -/
def chars (ip : IPv6) : List Char :=
  match ip.mapped? with
  | some ip4 => "::ffff:".toList ++ ip4.chars
  | none => ip.hexChars

/-- The canonical text of an IPv6 address. -/
def text (ip : IPv6) : String := String.ofList ip.chars

end IPv6

namespace Address

/-- The canonical text of an address. -/
def text : Address → String
  | .v4 ip => ip.text
  | .v6 ip => ip.text

end Address

end TailnetTargets
