/-
  VrmlWorld/Text/Blank.lean
  =========================
  **The property White_Space.**

  Blank characters separate the tokens of a scene file and are trimmed from
  references.
-/
import VrmlWorld.Text.Range

namespace VrmlWorld.Text

/-- The white space characters, those of ASCII included. -/
def blankRanges : Array Range := #[
  ⟨0x9, 0xD⟩, ⟨0x20, 0x20⟩, ⟨0x85, 0x85⟩, ⟨0xA0, 0xA0⟩, ⟨0x1680, 0x1680⟩, ⟨0x2000, 0x200A⟩,
  ⟨0x2028, 0x2029⟩, ⟨0x202F, 0x202F⟩, ⟨0x205F, 0x205F⟩, ⟨0x3000, 0x3000⟩]

def isBlank (c : Char) : Bool := inRanges blankRanges c

/-- A text without the white space at its ends. -/
def trim (text : List Char) : List Char :=
  ((text.dropWhile isBlank).reverse.dropWhile isBlank).reverse

end VrmlWorld.Text
