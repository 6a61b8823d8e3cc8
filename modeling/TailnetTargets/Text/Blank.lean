/-
  White space, as data of the character standard.

  * `blankRanges`: the characters of white space (White_Space);
  * `isBlank` says whether a character is one of them.
-/
import TailnetTargets.Text.Range

namespace TailnetTargets.Text

/-- The characters of white space. -/
def blankRanges : List Range := [
  ⟨0x9, 0xd⟩, ⟨0x20, 0x20⟩, ⟨0x85, 0x85⟩, ⟨0xa0, 0xa0⟩, ⟨0x1680, 0x1680⟩, ⟨0x2000, 0x200a⟩,
  ⟨0x2028, 0x2029⟩, ⟨0x202f, 0x202f⟩, ⟨0x205f, 0x205f⟩, ⟨0x3000, 0x3000⟩]

/-- Whether a character is white space. -/
def isBlank (c : Char) : Bool := isIn blankRanges c

end TailnetTargets.Text
