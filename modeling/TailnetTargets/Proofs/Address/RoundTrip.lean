/-
  Printed addresses are read again.

  * `IPv4.ofChars?_chars`: a dotted quad is read as the address whose text it is;
  * `Address.ofText?_text_v4`: so it is as the text of any address.
-/
import TailnetTargets.Address.Parser
import TailnetTargets.Address.Printer

namespace TailnetTargets

open Text

namespace IPv4

theorem octet?_toDigits (n : UInt8) : octet? (Nat.toDigits 10 n.toNat) = some n := by
  have h : ∀ m < 256, octet? (Nat.toDigits 10 m) = some (UInt8.ofNat m) := by decide +kernel
  rw [h n.toNat n.toNat_lt, UInt8.ofNat_toNat]

theorem dot_not_mem_toDigits (n : Nat) : '.' ∉ Nat.toDigits 10 n := fun h =>
  absurd (Nat.isDigit_of_mem_toDigits (by decide) (by decide) h) (by decide)

theorem ofChars?_chars (ip : IPv4) : ofChars? ip.chars = some ip := by
  have hfields : fields '.' ip.chars =
      [ip.a, ip.b, ip.c, ip.d].map fun octet => Nat.toDigits 10 octet.toNat := by
    refine fields_joinWith (by simp) fun f hf => ?_
    obtain ⟨octet, -, rfl⟩ := List.mem_map.1 hf
    exact dot_not_mem_toDigits _
  simp only [ofChars?, hfields, List.map_cons, List.map_nil, octet?_toDigits]

end IPv4

theorem Address.ofText?_text_v4 (ip : IPv4) : ofText? ip.text = some (.v4 ip) := by
  rw [ofText?, IPv4.text, String.toList_ofList, ofChars?, IPv4.ofChars?_chars]

end TailnetTargets
