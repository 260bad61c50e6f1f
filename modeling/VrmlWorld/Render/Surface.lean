/-
  VrmlWorld/Render/Surface.lean
  =============================
  **The material in effect.**

  A material node may give several values for each of its properties. The first
  one of each is in effect, and a property that it does not mention stays as it
  was.
-/
import VrmlWorld.Scene.Node

namespace VrmlWorld

open VrmlWorld.Geometry

/-- The material in effect at a shape. -/
structure Surface where
  diffuse : Vec3 := ⟨0.8, 0.8, 0.8⟩
  ambient : Vec3 := ⟨0.2, 0.2, 0.2⟩
  specular : Vec3 := .zero
  emissive : Vec3 := .zero
  shininess : Float32 := 0.2
  transparency : Float32 := 0
deriving DecidableEq, Repr

namespace Surface

def apply (surface : Surface) (material : Material) : Surface where
  diffuse := (material.diffuse[0]?).getD surface.diffuse
  ambient := (material.ambient[0]?).getD surface.ambient
  specular := (material.specular[0]?).getD surface.specular
  emissive := (material.emissive[0]?).getD surface.emissive
  shininess := (material.shininess[0]?).getD surface.shininess
  transparency := (material.transparency[0]?).getD surface.transparency

def diffuseColor (surface : Surface) : Vec4 := surface.diffuse.extend (1 - surface.transparency)

end Surface

end VrmlWorld
