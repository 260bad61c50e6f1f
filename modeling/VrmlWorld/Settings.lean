/-
  VrmlWorld/Settings.lean
  =======================
  **The settings of a viewer.**
-/
import VrmlWorld.Geometry.Vector

namespace VrmlWorld

open VrmlWorld.Geometry

/-- The camera before a scene has its say. -/
structure CameraSettings where
  /-- The vertical field of view. -/
  fovDegrees : Float32 := 60
  near : Float32 := 0.1
  far : Float32 := 100
  /-- Where the viewer stands in a scene without viewpoints. -/
  startPosition : Vec3 := ⟨0, 0, 5⟩
deriving DecidableEq, Repr

structure InputSettings where
  /-- Radians for each pixel of a drag. -/
  dragSensitivity : Float32 := 0.01
  /-- Units of the scene for each unit of scrolling. -/
  scrollSensitivity : Float32 := 0.1
deriving DecidableEq, Repr

structure Settings where
  camera : CameraSettings := {}
  /-- Into how many parts round shapes are cut, each way. -/
  segments : Nat := 20
  /-- How large the points of a point set are drawn. -/
  pointSize : Float32 := 10
  /-- Whether a scene without lights is lit from the viewer. -/
  headlight : Bool := true
  input : InputSettings := {}
deriving DecidableEq, Repr

/-- The text of a setting that is on or off. -/
def flagText (flag : Bool) : String := if flag then "true" else "false"

/-- Whether two settings have equal numbers. Zeros of both signs are equal, and
    what is no number is equal to nothing. -/
def Settings.agrees (a b : Settings) : Bool :=
  let numbers (s : Settings) : List Float32 :=
    [s.camera.fovDegrees, s.camera.near, s.camera.far, s.pointSize, s.input.dragSensitivity,
      s.input.scrollSensitivity] ++ s.camera.startPosition.toList
  (numbers a).zip (numbers b) |>.all (fun (x, y) => x == y) && a.segments == b.segments
    && a.headlight == b.headlight

end VrmlWorld
