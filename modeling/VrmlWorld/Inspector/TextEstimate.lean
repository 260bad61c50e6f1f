/-
  VrmlWorld/Inspector/TextEstimate.lean
  =====================================
  **The size of lettering, without lettering.**

  Without a screen no glyphs are made. A text is taken to be as many glyphs
  wide as its longest line has characters, and as many high as it has lines.
-/
import VrmlWorld.Host

namespace VrmlWorld

namespace TextEstimate

/-- How wide a glyph is on the average, as a part of its height. -/
def glyphAspect : Float32 := 0.6

/-- How many times as wide as high a text is, if it has any characters. -/
def aspect? (lines : List String) : Option Float32 :=
  let columns := (lines.map (·.length)).max?.getD 0
  if columns = 0 then none
  else some (Float32.ofNat columns * glyphAspect / Float32.ofNat lines.length)

/-- The handle of the bitmap that is the `count`th, counted from one. Handles go
    down from the greatest, out of the way of those for images. -/
def handle (count : Nat) : TextureHandle := ⟨(18446744073709551615 - UInt64.ofNat count)⟩

/-- Estimates a text, with the number of texts estimated so far. -/
def rasterize (request : TextRequest) (count : Nat) : Option TextBitmap × Nat :=
  match aspect? request.lines with
  | some aspect => (some ⟨handle (count + 1), aspect⟩, count + 1)
  | none => (none, count)

end TextEstimate

end VrmlWorld
