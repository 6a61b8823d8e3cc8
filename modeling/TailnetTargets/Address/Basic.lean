/-
  Internet addresses of the two families.

  * `IPv4`: four octets;
  * `IPv6`: eight groups of sixteen bits;
  * `Address`: an address of either family;
  * `IPv6.mapped?` gives the IPv4 address inside an IPv4-mapped one: five zero groups, a group of
    ones, and the four octets.
-/

namespace TailnetTargets

/-- An address of four octets. -/
structure IPv4 where
  a : UInt8
  b : UInt8
  c : UInt8
  d : UInt8
deriving DecidableEq, Repr

/-- An address of eight groups of sixteen bits. -/
structure IPv6 where
  /-- the groups, most significant first -/
  groups : Vector UInt16 8
deriving DecidableEq, Repr

/-- An address of either family. -/
inductive Address where
  | v4 (ip : IPv4)
  | v6 (ip : IPv6)
deriving DecidableEq, Repr

namespace IPv4

/-- The two groups which hold the octets inside an IPv6 address. -/
def groups (ip : IPv4) : List UInt16 :=
  [ip.a.toUInt16 * 256 + ip.b.toUInt16, ip.c.toUInt16 * 256 + ip.d.toUInt16]

/-- The address whose octets two groups hold. -/
def ofGroups (hi lo : UInt16) : IPv4 :=
  ⟨(hi / 256).toUInt8, hi.toUInt8, (lo / 256).toUInt8, lo.toUInt8⟩

end IPv4

/-- The IPv4 address inside an IPv4-mapped one. -/
def IPv6.mapped? (ip : IPv6) : Option IPv4 :=
  match ip.groups.toList with
  | [0, 0, 0, 0, 0, 0xffff, hi, lo] => some (IPv4.ofGroups hi lo)
  | _ => none

end TailnetTargets
