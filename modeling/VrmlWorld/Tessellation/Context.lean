/-
  VrmlWorld/Tessellation/Context.lean
  ===================================
  **What a shape takes from the properties around it.**

  A mesh depends on the fields of its node and on the properties collected
  here, and on nothing else.
-/
import VrmlWorld.Render.Mesh
import VrmlWorld.Scene.Node

namespace VrmlWorld

open VrmlWorld.Geometry

/-- The color of shapes without a material. -/
def white : Vec4 := ⟨1, 1, 1, 1⟩

/-- The properties that hold where a shape stands. -/
structure ShapeContext where
  coordinates : Array Vec3 := #[]
  normals : Array Vec3 := #[]
  texCoords : Array Vec2 := #[]
  /-- The diffuse colors of the last material that has any. -/
  palette : Array Vec3 := #[]
  materialBinding : Binding := .default
  normalBinding : Binding := .default
  shapeHints : ShapeHints := {}
  /-- The diffuse color in effect, which lines and points take. -/
  diffuse : Vec4 := ⟨0.8, 0.8, 0.8, 1⟩
  /-- Into how many parts a round shape is cut, each way. -/
  segments : Nat
deriving DecidableEq, Repr

namespace ShapeContext

def paletteColor? (context : ShapeContext) (position : Nat) : Option Vec4 :=
  (context.palette[position]?).map (·.extend 1)

/-- The color of a shape as a whole: the first of the palette, or white. -/
def overallColor (context : ShapeContext) : Vec4 := (context.paletteColor? 0).getD white

end ShapeContext

end VrmlWorld
