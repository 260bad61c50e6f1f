/-
  VrmlWorld/Render/Light.lean
  ===========================
  **Lights in the world.**

  Lights are gathered before anything is drawn, so a light shines on the whole
  scene wherever its node stands.
-/
import VrmlWorld.Scene.Placement

namespace VrmlWorld

open VrmlWorld.Geometry

/-- The shapes of lights, as numbered in the light buffer. -/
inductive LightType where
  | directional
  | point
  | spot
deriving DecidableEq, Repr

def LightType.code : LightType → Nat
  | directional => 0
  | point => 1
  | spot => 2

structure Light where
  type : LightType
  /-- Of no account for directional lights. -/
  position : Vec3
  /-- Of no account for point lights. -/
  direction : Vec3
  color : Vec3
  intensity : Float32
  dropOffRate : Float32
  cutOffAngle : Float32
deriving DecidableEq, Repr

namespace Light

/-- A unit direction; away from the viewer when there is none. -/
def unitDirection (direction : Vec3) : Vec3 := (direction.unit?).getD (-Vec3.near)

def directional (direction color : Vec3) (intensity : Float32) : Light :=
  ⟨.directional, .zero, unitDirection direction, color, intensity, 0, 0⟩

def headlight (forward : Vec3) : Light := directional forward ⟨1, 1, 1⟩ 1

/-- The light of a node that a matrix places, if it is switched on. -/
def ofNode? (node : LightNode) (matrix : Mat4) : Option Light :=
  if !node.on then none
  else
    some <| match node.kind with
    | .directional direction =>
        ⟨.directional, .zero, unitDirection (matrix.mapVector direction), node.color,
          node.intensity, 0, 0⟩
    | .point location =>
        ⟨.point, matrix.mapPoint location, .zero, node.color, node.intensity, 0, 0⟩
    | .spot location direction dropOffRate cutOffAngle =>
        ⟨.spot, matrix.mapPoint location, unitDirection (matrix.mapVector direction), node.color,
          node.intensity, dropOffRate, cutOffAngle⟩

end Light

/-- A light as it lies in the light buffer. -/
structure LightBlock where
  position : Vec4
  direction : Vec4
  color : Vec4
  intensity : Float32
  code : Nat
  dropOffRate : Float32
  cutOffAngle : Float32
deriving DecidableEq, Repr

/-- Positions and colors are extended by one, directions by zero. -/
def Light.block (light : Light) : LightBlock where
  position := light.position.extend 1
  direction := light.direction.extend 0
  color := light.color.extend 1
  intensity := light.intensity
  code := light.type.code
  dropOffRate := light.dropOffRate
  cutOffAngle := light.cutOffAngle

/-- The lights of a scene that are switched on, in document order. -/
def SceneGraph.lights (graph : SceneGraph) (viewer : Vec3) : List Light :=
  (graph.placed viewer).filterMap fun placed =>
    match placed.kind with
    | .light node => Light.ofNode? node placed.matrix
    | _ => none

end VrmlWorld
