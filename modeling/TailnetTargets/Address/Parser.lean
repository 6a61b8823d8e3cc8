/-
  Reading addresses.

  * `IPv4.ofChars?`: four decimal octets with dots between them, each up to 255 and without
    leading zeros;
  * `IPv6.ofChars?`: groups of one to four hexadecimal digits with colons between them, where the
    last two groups may be a dotted quad, and where two colons once stand for one or more zero
    groups;
  * `Address.ofText?` accepts either.

  Nothing may precede or follow the address: no blanks, no brackets, no zone.
-/
import TailnetTargets.Address.Basic
import TailnetTargets.Text.Digit
import TailnetTargets.Text.Fields

namespace TailnetTargets

open Text

namespace IPv4

/-- A decimal octet without leading zeros. -/
def octet? (cs : List Char) : Option UInt8 :=
  if 3 < cs.length ∨ (1 < cs.length ∧ cs.head? = some '0') then none
  else
    match number? 10 cs with
    | some n => if n < 256 then some (UInt8.ofNat n) else none
    | none => none

/-- The address written as a dotted quad. -/
def ofChars? (cs : List Char) : Option IPv4 :=
  match (fields '.' cs).map octet? with
  | [some a, some b, some c, some d] => some ⟨a, b, c, d⟩
  | _ => none

end IPv4

namespace IPv6

/-- A group of one to four hexadecimal digits. -/
def group? (cs : List Char) : Option UInt16 :=
  if 4 < cs.length then none else (number? 16 cs).map UInt16.ofNat

/-- The groups written by fields, where the last field may be a dotted quad if `quad` allows it. -/
def groups? (quad : Bool) : List (List Char) → Option (List UInt16)
  | [] => some []
  | [f] =>
    match group? f with
    | some g => some [g]
    | none => if quad then (IPv4.ofChars? f).map IPv4.groups else none
  | f :: fs =>
    match group? f, groups? quad fs with
    | some g, some gs => some (g :: gs)
    | _, _ => none

/-- The groups written by a text which may be empty. -/
def groupsOf? (quad : Bool) (cs : List Char) : Option (List UInt16) :=
  if cs.isEmpty then some [] else groups? quad (fields ':' cs)

/-- A text cut at its first pair of colons. -/
def cutAtGap : List Char → Option (List Char × List Char)
  | ':' :: ':' :: rest => some ([], rest)
  | c :: rest => (cutAtGap rest).map fun (before, after) => (c :: before, after)
  | [] => none

/-- The address with these groups, if they are eight. -/
def ofGroups? (groups : List UInt16) : Option IPv6 :=
  if h : groups.toArray.size = 8 then some ⟨⟨groups.toArray, h⟩⟩ else none

/-- The address written by a text. -/
def ofChars? (cs : List Char) : Option IPv6 :=
  match cutAtGap cs with
  | none => (groupsOf? true cs).bind ofGroups?
  | some (before, after) =>
    match groupsOf? false before, groupsOf? true after with
    | some head, some tail =>
      if head.length + tail.length ≤ 7 then
        ofGroups? (head ++ List.replicate (8 - head.length - tail.length) 0 ++ tail)
      else none
    | _, _ => none

end IPv6

namespace Address

/-- The address written by a text. -/
def ofChars? (cs : List Char) : Option Address :=
  match IPv4.ofChars? cs with
  | some ip => some (.v4 ip)
  | none => (IPv6.ofChars? cs).map .v6

/-- The address written by a text. -/
def ofText? (s : String) : Option Address := ofChars? s.toList

end Address

end TailnetTargets
