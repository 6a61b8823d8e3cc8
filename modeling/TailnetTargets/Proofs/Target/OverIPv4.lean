/-
  The form in which a target is reached over IPv4.

  * `IPv4.mapped`, `IPv4.compatible`: the IPv6 addresses which hold an IPv4 address.  Of these
    only the mapped one stands for it (`IPv6.mapped?_eq_some`, `compatible_ne_mapped`);
  * `OverIPv4`: what becomes of a target: it is kept, it is replaced by a dotted quad, or it is
    dropped.  This is what `overIPv4?` computes (`overIPv4?_eq_iff`);
  * `Filter.apply_ipv6_exact`: **the filter does to every target, in order, what becomes of it, and
    leaves no IPv6 address**.
-/
import Mathlib.Data.List.Forall2
import Mathlib.Data.List.ReduceOption
import TailnetTargets.Proofs.Address.Grammar
import TailnetTargets.Proofs.Target.Filter

namespace TailnetTargets

namespace IPv4

/-- The IPv6 address which stands for an IPv4 address. -/
def mapped (ip : IPv4) : IPv6 :=
  ⟨⟨(List.replicate 5 0 ++ 0xffff :: ip.groups).toArray, by simp [groups]⟩⟩

/-- The IPv6 address which holds an IPv4 address behind zeros only. -/
def compatible (ip : IPv4) : IPv6 :=
  ⟨⟨(List.replicate 6 0 ++ ip.groups).toArray, by simp [groups]⟩⟩

theorem toList_text (ip : IPv4) : ip.text.toList = ip.chars := String.toList_ofList

theorem isSpelling_iff {ip : IPv4} {s : String} :
    (Address.v4 ip).IsSpelling s.toList ↔ ip.text = s := by
  rw [Address.IsSpelling, ← toList_text, String.toList_inj, eq_comm]

/-- Two groups hold the octets of one address. -/
theorem groups_eq_iff {ip : IPv4} {hi lo : UInt16} : ip.groups = [hi, lo] ↔ ofGroups hi lo = ip := by
  obtain ⟨a, b, c, d⟩ := ip
  simp only [groups, ofGroups, List.cons.injEq, IPv4.mk.injEq, ← UInt16.toNat_inj, ← UInt8.toNat_inj]
  have ha := a.toNat_lt
  have hb := b.toNat_lt
  have hc := c.toNat_lt
  have hd := d.toNat_lt
  have hhi := hi.toNat_lt
  have hlo := lo.toNat_lt
  simp
  omega

theorem toList_mapped (ip : IPv4) :
    ip.mapped.groups.toList = List.replicate 5 0 ++ 0xffff :: ip.groups := rfl

theorem toList_compatible (ip : IPv4) :
    ip.compatible.groups.toList = List.replicate 6 0 ++ ip.groups := rfl

theorem compatible_ne_mapped (ip ip4 : IPv4) : ip.compatible ≠ ip4.mapped := by
  intro h
  have h5 := congrArg (fun ip : IPv6 => ip.groups.toList[5]?) h
  cases h5

end IPv4

namespace IPv6

theorem ext_groups {ip ip' : IPv6} (h : ip.groups.toList = ip'.groups.toList) : ip = ip' := by
  cases ip; cases ip'
  exact congrArg mk (Vector.toList_inj.1 h)

/-- Only the mapped address stands for an IPv4 address. -/
theorem mapped?_eq_some {ip : IPv6} {ip4 : IPv4} : ip.mapped? = some ip4 ↔ ip = ip4.mapped := by
  constructor
  · intro h
    unfold mapped? at h
    split at h
    · next hi lo hgroups =>
      have hip4 := IPv4.groups_eq_iff.2 (Option.some.inj h)
      refine ext_groups ?_
      rw [hgroups, IPv4.toList_mapped, hip4]
      rfl
    · cases h
  · rintro rfl
    exact congrArg some (IPv4.groups_eq_iff.1 rfl)

theorem mapped?_eq_none {ip : IPv6} : ip.mapped? = none ↔ ∀ ip4 : IPv4, ip ≠ ip4.mapped := by
  simp only [Option.eq_none_iff_forall_ne_some, ne_eq, mapped?_eq_some]

end IPv6

/-- What becomes of a target. -/
inductive OverIPv4 : String → Option String → Prop
  /-- an IPv4 address is kept -/
  | v4 {target : String} (ip : IPv4) (h : (Address.v4 ip).IsSpelling target.toList) :
      OverIPv4 target (some target)
  /-- what is no address is kept -/
  | other {target : String} (h : ∀ a : Address, ¬ a.IsSpelling target.toList) :
      OverIPv4 target (some target)
  /-- the address which stands for an IPv4 address is replaced by that, however it is written -/
  | mapped {target : String} (ip : IPv4) (h : (Address.v6 ip.mapped).IsSpelling target.toList) :
      OverIPv4 target (some ip.text)
  /-- another IPv6 address is dropped -/
  | v6 {target : String} (ip : IPv6) (h : (Address.v6 ip).IsSpelling target.toList)
      (hmapped : ∀ ip4 : IPv4, ip ≠ ip4.mapped) : OverIPv4 target none

theorem overIPv4_overIPv4? (target : String) : OverIPv4 target (overIPv4? target) := by
  unfold overIPv4?
  split
  · next hnone =>
    refine .other fun a ha => ?_
    rw [Address.ofText?_eq_some.2 ha] at hnone
    cases hnone
  · next ip hip =>
    have hspelling := Address.ofText?_eq_some.1 hip
    rw [IPv4.isSpelling_iff.1 hspelling]
    exact .v4 ip hspelling
  · next ip hip =>
    have hspelling := Address.ofText?_eq_some.1 hip
    cases hmapped : ip.mapped? with
    | none => exact .v6 ip hspelling (IPv6.mapped?_eq_none.1 hmapped)
    | some ip4 =>
      rw [IPv6.mapped?_eq_some.1 hmapped] at hspelling
      exact .mapped ip4 hspelling

theorem OverIPv4.eq_form {target : String} {form : Option String} (h : OverIPv4 target form) :
    overIPv4? target = form := by
  cases h with
  | v4 ip h =>
    rw [overIPv4?, Address.ofText?_eq_some.2 h]
    exact congrArg some (IPv4.isSpelling_iff.1 h)
  | other h =>
    have hnone : Address.ofText? target = none :=
      Option.eq_none_iff_forall_ne_some.2 fun a ha => h a (Address.ofText?_eq_some.1 ha)
    rw [overIPv4?, hnone]
  | mapped ip h =>
    have hmapped : ip.mapped.mapped? = some ip := IPv6.mapped?_eq_some.2 rfl
    rw [overIPv4?, Address.ofText?_eq_some.2 h]
    simp only [hmapped, Option.map_some]
  | v6 ip h hnot =>
    rw [overIPv4?, Address.ofText?_eq_some.2 h]
    simp only [IPv6.mapped?_eq_none.2 hnot, Option.map_none]

theorem overIPv4?_eq_iff {target : String} {form : Option String} :
    overIPv4? target = form ↔ OverIPv4 target form :=
  ⟨fun h => h ▸ overIPv4_overIPv4? target, OverIPv4.eq_form⟩

-- two spellings of one address, and a text which is none for a group of five digits
example : ["0:0::FFFF:1.2.3.4", "::ffff:102:0304", "::0ffff:1.2.3.4"].map overIPv4? =
    [some "1.2.3.4", some "1.2.3.4", some "::0ffff:1.2.3.4"] := by decide +kernel

/-- The targets which the filter leaves are no IPv6 addresses. -/
theorem ofText?_ne_v6_of_overIPv4? {target form : String} (h : overIPv4? target = some form)
    (ip : IPv6) : Address.ofText? form ≠ some (.v6 ip) := by
  intro hparse
  have hkept : OverIPv4 form (some form) := overIPv4?_eq_iff.1 (overIPv4?_idem h)
  have hv6 := Address.ofText?_eq_some.1 hparse
  cases hkept with
  | v4 ip4 hv4 => cases hv4.unique hv6
  | other hnot => exact hnot _ hv6
  | mapped ip4 hmapped =>
    -- the text of an IPv4 address would be a spelling of the mapped one
    have hv4 : (Address.v4 ip4).IsSpelling ip4.text.toList := IPv4.isSpelling_iff.2 rfl
    cases hv4.unique hmapped

/-- The usual spelling of the address which stands for an IPv4 address. -/
theorem IPv4.isSpelling_mapped (ip : IPv4) : ip.mapped.IsSpelling ("::ffff:" ++ ip.text).toList := by
  have hones : IPv6.IsGroup 0xffff "ffff".toList := by
    refine ⟨by decide, by decide, [15, 15, 15, 15], ?_, by decide⟩
    repeat' constructor
  have hfields : IPv6.AreFields true (0xffff :: ip.groups) ["ffff".toList, ip.chars] :=
    .cons hones (.quad ip rfl)
  have hspelling := IPv6.IsSpelling.gap 4 ip.toList_mapped .nil hfields
  rw [String.toList_append, toList_text]
  exact hspelling

theorem IPv4.isSpelling_compatible (ip : IPv4) :
    ip.compatible.IsSpelling ("::" ++ ip.text).toList := by
  have hspelling := IPv6.IsSpelling.gap 5 ip.toList_compatible .nil (.quad ip rfl)
  rw [String.toList_append, toList_text]
  exact hspelling

namespace Filter

/-- **The filter does to every target, in order, what becomes of it, and to nothing else.**  Just
    one thing becomes of a target: an address behind zeros only is dropped, though it holds an IPv4
    address.  No target which is left is read as an IPv6 address, so that the filter changes
    nothing when it is applied again. -/
theorem apply_ipv6_exact :
    (∀ target, ∃! form, OverIPv4 target form) ∧
    (∀ ip : IPv4, OverIPv4 ("::ffff:" ++ ip.text) (some ip.text) ∧
      OverIPv4 ("::" ++ ip.text) none) ∧
    ∀ g : TargetGroup,
      (∃ forms, List.Forall₂ OverIPv4 g.targets forms ∧
        apply .ipv6 g = { g with targets := forms.reduceOption }) ∧
      (∀ target ∈ (apply .ipv6 g).targets, ∀ ip : IPv6,
        Address.ofText? target ≠ some (.v6 ip)) ∧
      apply .ipv6 (apply .ipv6 g) = apply .ipv6 g := by
  refine ⟨fun target => ?_, fun ip => ⟨?_, ?_⟩, fun g => ⟨?_, ?_, ?_⟩⟩
  · exact ⟨overIPv4? target, overIPv4?_eq_iff.1 rfl, fun form h => (overIPv4?_eq_iff.2 h).symm⟩
  · exact .mapped ip ip.isSpelling_mapped
  · exact .v6 ip.compatible ip.isSpelling_compatible ip.compatible_ne_mapped
  · refine ⟨g.targets.map overIPv4?, ?_, ?_⟩
    · rw [List.forall₂_map_right_iff, List.forall₂_same]
      exact fun target _ => overIPv4?_eq_iff.1 rfl
    · rw [apply, List.reduceOption, List.filterMap_map, Function.id_comp]
  · intro target htarget
    obtain ⟨original, -, hform⟩ := List.mem_filterMap.1 htarget
    exact ofText?_ne_v6_of_overIPv4? hform
  · rw [apply, apply, filterMap_overIPv4?_idem]

end Filter

end TailnetTargets
