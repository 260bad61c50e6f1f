/-
  VrmlWorld/Tessellation/Lettering.lean
  =====================================
  **The quad that carries a text.**

  A text is drawn as one textured quad. The host makes its image; here the quad
  gets its size and its place.
-/
import VrmlWorld.Tessellation.Context

namespace VrmlWorld.Tessellation

open VrmlWorld.Geometry

/-- The quad of a block of lines whose image is `aspect` times as wide as high.
    The first line reaches up to the font size, so that its foot is near the
    origin. There is none without lines or width. -/
def textQuad? (font : FontStyle) (justification : Justification) (spacing : Float32) (lines : Nat)
    (aspect : Float32) : Option Mesh :=
  if lines = 0 ∨ aspect ≤ 0 then none
  else
    let height := font.size * Float32.ofNat lines * greater spacing epsilon
    let width := height * aspect
    let (left, right) : Float32 × Float32 := match justification with
      | .left => (0, width)
      | .center => (-width * 0.5, width * 0.5)
      | .right => (-width, 0)
    let top := font.size
    let bottom := font.size - height
    let corner (x y u v : Float32) : Vertex := ⟨⟨x, y, 0⟩, .near, white, ⟨u, v⟩⟩
    let topLeft := corner left top 0 0
    let bottomLeft := corner left bottom 0 1
    let bottomRight := corner right bottom 1 1
    let topRight := corner right top 1 0
    some
      { vertices := [bottomLeft, bottomRight, topRight, bottomLeft, topRight, topLeft]
        topology := .triangles }

end VrmlWorld.Tessellation
