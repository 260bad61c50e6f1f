/-
  VrmlWorld/Tessellation/Shape.lean
  =================================
  **The mesh of a shape.**
-/
import VrmlWorld.Tessellation.Indexed
import VrmlWorld.Tessellation.Lettering
import VrmlWorld.Tessellation.Primitive

namespace VrmlWorld

/-- The mesh of a shape other than a text. There is none for what is no shape,
    or where nothing is left to draw. -/
def tessellate? (kind : NodeKind) (context : ShapeContext) : Option Mesh :=
  let color := context.overallColor
  match kind with
  | .cube cube => some (Tessellation.cube cube color)
  | .sphere sphere => some (Tessellation.sphere sphere color context.segments)
  | .cone cone => Tessellation.cone? cone color context.segments
  | .cylinder cylinder => Tessellation.cylinder? cylinder color context.segments
  | .indexedFaceSet shape => Tessellation.faceSet? shape context
  | .indexedLineSet shape => Tessellation.lineSet? shape context
  | .pointSet points => Tessellation.pointSet? points context
  | _ => none

end VrmlWorld
