/-
  VrmlWorld/Render/Uniform.lean
  =============================
  **The block of values that goes with each draw.**
-/
import VrmlWorld.Render.Surface

namespace VrmlWorld

open VrmlWorld.Geometry

/-- The material as it lies in the uniform block. -/
structure SurfaceBlock where
  diffuse : Vec4
  ambient : Vec4
  specular : Vec4
  emissive : Vec4
  shininess : Float32
  transparency : Float32
deriving DecidableEq, Repr

def Surface.block (surface : Surface) : SurfaceBlock where
  diffuse := surface.diffuseColor
  ambient := surface.ambient.extend 1
  specular := surface.specular.extend 1
  emissive := surface.emissive.extend 1
  shininess := surface.shininess
  transparency := surface.transparency

/-- The greatest number that the uniform block has room for: 31 bits and a sign. -/
def greatestCount : Nat := 2147483647

/-- The values of a draw that do not differ between its vertices. -/
structure UniformBlock where
  projection : Mat4
  modelView : Mat4
  /-- The columns that normals are mapped by, each extended by zero. -/
  normalMatrix : List Vec4
  textureTransform : Mat4
  material : SurfaceBlock
  /-- At most `greatestCount`, also where there are more lights. -/
  lightCount : Nat
  hasTexture : Bool
  pointSize : Float32
  isUnlit : Bool
deriving DecidableEq, Repr

/-- The matrix that maps normals: the transposed inverse of the linear part,
    or the linear part itself when it has no inverse. -/
def normalMatrix (modelView : Mat4) : Mat3 :=
  (modelView.linear.inverse?.map (·.transpose)).getD modelView.linear

/-- The columns of a matrix, each extended by zero. -/
def Geometry.Mat3.padded (m : Mat3) : List Vec4 := [m.c0.extend 0, m.c1.extend 0, m.c2.extend 0]

end VrmlWorld
