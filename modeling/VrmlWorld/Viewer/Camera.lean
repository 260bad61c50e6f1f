/-
  VrmlWorld/Viewer/Camera.lean
  ============================
  **The viewer's camera.**

  The camera stands at a point and is turned by two angles: yaw about the
  vertical axis, to the right, and pitch about its own horizontal axis,
  downwards. Without them it looks along the negative third axis. A viewpoint
  of the scene places it, and the mouse moves it from there.
-/
import VrmlWorld.Geometry.Projection
import VrmlWorld.Geometry.Ray
import VrmlWorld.Scene.Node
import VrmlWorld.Settings

namespace VrmlWorld

open VrmlWorld.Geometry

inductive Projection where
  /-- By a vertical field of view in radians. -/
  | perspective (fov : Float32)
  /-- By the height that is visible. -/
  | orthographic (height : Float32)
deriving DecidableEq, Repr

structure Camera where
  position : Vec3
  pitch : Float32
  yaw : Float32
  projection : Projection
  near : Float32
  far : Float32
deriving DecidableEq, Repr

namespace Camera

/-- How far up or down a drag may turn the camera: almost upright. -/
def pitchLimit : Float32 := quarterTurn - 0.01

def ofSettings (settings : CameraSettings) : Camera where
  position := settings.startPosition
  pitch := 0
  yaw := 0
  projection := .perspective (radians settings.fovDegrees)
  near := settings.near
  far := settings.far

/-! ### Directions -/

def forward (camera : Camera) : Vec3 :=
  ⟨camera.yaw.sin * camera.pitch.cos, -camera.pitch.sin, -camera.yaw.cos * camera.pitch.cos⟩

def right (camera : Camera) : Vec3 := ⟨camera.yaw.cos, 0, camera.yaw.sin⟩

def up (camera : Camera) : Vec3 := camera.right.cross camera.forward

/-- Turns the camera along a direction, if it is one. -/
def lookAlong (camera : Camera) (direction : Vec3) : Camera :=
  match direction.unit? with
  | none => camera
  | some forward =>
      { camera with
        pitch := -(clamp forward.y (-1) 1).asin
        yaw := forward.x.atan2 (-forward.z) }

/-! ### Matrices -/

def view (camera : Camera) : Mat4 :=
  Mat4.lookAt camera.position (camera.position + camera.forward) .up

/-- From the camera to the picture; a ratio of sides that is not positive
    counts as one. -/
def projectionMatrix (camera : Camera) (aspect : Float32) : Mat4 :=
  let aspect := if 0 < aspect then aspect else 1
  match camera.projection with
  | .perspective fov => Mat4.perspective fov aspect camera.near camera.far
  | .orthographic height => Mat4.orthographic height aspect camera.near camera.far

def viewProjection (camera : Camera) (aspect : Float32) : Mat4 :=
  camera.projectionMatrix aspect * camera.view

/-- The ray through a place of the screen, from the near plane to the far
    plane. There is none through an empty viewport, or when the projection
    cannot be undone. -/
def rayThrough? (camera : Camera) (screen viewport : Vec2) : Option Ray :=
  if viewport.x ≤ 0 ∨ viewport.y ≤ 0 then none
  else
    let x := (screen.x / viewport.x) * 2 - 1
    let y := -((screen.y / viewport.y) * 2 - 1)
    ((camera.viewProjection (viewport.x / viewport.y)).inverse?).map fun inverse =>
      let unproject (depth : Float32) : Vec3 :=
        let p := inverse.apply ⟨x, y, depth, 1⟩
        p.xyz.shrink p.w
      let near := unproject 0
      Ray.along near (unproject 1 - near)

/-! ### Movements -/

/-- Goes to a viewpoint of the scene that a matrix places, and takes over its
    projection. -/
def activate (camera : Camera) (viewpoint : CameraNode) (world : Mat4) : Camera :=
  let direction := (Mat4.rotation viewpoint.orientation).mapVector (-Vec3.near)
  let turned := { camera with position := world.mapPoint viewpoint.position }.lookAlong
    (world.mapVector direction)
  { turned with
    projection := match viewpoint.projection with
      | .perspective heightAngle => .perspective heightAngle
      | .orthographic height => .orthographic height }

def drag (camera : Camera) (delta : Vec2) (sensitivity : Float32) : Camera :=
  { camera with
    yaw := camera.yaw + delta.x * sensitivity
    pitch := clamp (camera.pitch + delta.y * sensitivity) (-pitchLimit) pitchLimit }

def scroll (camera : Camera) (delta sensitivity : Float32) : Camera :=
  { camera with
    position := camera.position + camera.forward.scale (delta * sensitivity) }

end Camera

end VrmlWorld
