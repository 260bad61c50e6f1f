/-
  VrmlWorld/Render/Properties.lean
  ================================
  **The properties that nodes inherit.**

  A property node changes what holds for the nodes behind it. On leaving a group
  its transform and its document location go back to what they were on
  entering; the other properties go back only for groups that keep them to
  themselves, and go on to later siblings otherwise.
-/
import VrmlWorld.Host
import VrmlWorld.Render.Surface
import VrmlWorld.Tessellation.Context

namespace VrmlWorld

open VrmlWorld.Geometry

/-- A texture and what it does beyond its edges. -/
structure BoundTexture where
  handle : TextureHandle
  wrapS : TextureWrap
  wrapT : TextureWrap
deriving DecidableEq, Repr

/-- What holds at one point of a walk. -/
structure Properties where
  transform : Mat4 := .identity
  surface : Surface := {}
  /-- The diffuse colors of the last material that has any. -/
  palette : Array Vec3 := #[]
  texture : Option BoundTexture := none
  textureTransform : Mat4 := .identity
  coordinates : Array Vec3 := #[]
  texCoords : Array Vec2 := #[]
  normals : Array Vec3 := #[]
  normalBinding : Binding := .default
  materialBinding : Binding := .default
  font : FontStyle := {}
  shapeHints : ShapeHints := {}
  /-- Where the document that is being walked came from. -/
  base : Option Location := none
deriving DecidableEq, Repr

namespace Properties

def context (properties : Properties) (segments : Nat) : ShapeContext where
  coordinates := properties.coordinates
  normals := properties.normals
  texCoords := properties.texCoords
  palette := properties.palette
  materialBinding := properties.materialBinding
  normalBinding := properties.normalBinding
  shapeHints := properties.shapeHints
  diffuse := properties.surface.diffuseColor
  segments

def withMaterial (properties : Properties) (material : Material) : Properties :=
  { properties with
    surface := properties.surface.apply material
    palette := if material.diffuse.isEmpty then properties.palette else material.diffuse }

def after (properties : Properties) : NodeKind → Properties
  | .transform transform =>
      { properties with transform := properties.transform * transform.matrix }
  | .matrixTransform matrix => { properties with transform := properties.transform * matrix }
  | .material material => properties.withMaterial material
  | .texture2Transform transform =>
      { properties with textureTransform := properties.textureTransform * transform.matrix }
  | .textureCoordinate2 texCoords => { properties with texCoords }
  | .coordinate3 coordinates => { properties with coordinates }
  | .normal normals => { properties with normals }
  | .normalBinding normalBinding => { properties with normalBinding }
  | .materialBinding materialBinding => { properties with materialBinding }
  | .shapeHints shapeHints => { properties with shapeHints }
  | .fontStyle font => { properties with font }
  | _ => properties

/-- The properties behind a group that was entered with `properties`, when
    `inner` hold behind its last child. -/
def leaving (properties : Properties) (kind : NodeKind) (inner : Properties) : Properties :=
  if kind.restoresState then properties
  else { inner with transform := properties.transform, base := properties.base }

end Properties

end VrmlWorld
