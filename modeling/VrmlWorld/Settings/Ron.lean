/-
  VrmlWorld/Settings/Ron.lean
  ===========================
  **Settings as RON.**

  Settings are a record of records, in which every member may be left out.
-/
import VrmlWorld.Ron.Record
import VrmlWorld.Settings

namespace VrmlWorld

open VrmlWorld.Geometry Number Ron Text

/-! ### Reading -/

def CameraSettings.ofRon : ChangeReader CameraSettings :=
  record "CameraConfig" [
    ("fov_degrees", member single fun x s => { s with fovDegrees := x }),
    ("near", member single fun x s => { s with near := x }),
    ("far", member single fun x s => { s with far := x }),
    ("start_position", member triple fun (x, y, z) s => { s with startPosition := ⟨x, y, z⟩ })]

def InputSettings.ofRon : ChangeReader InputSettings :=
  record "InputConfig" [
    ("drag_sensitivity", member single fun x s => { s with dragSensitivity := x }),
    ("scroll_sensitivity", member single fun x s => { s with scrollSensitivity := x })]

namespace Settings

/-- Reads the group that holds the count of parts of round shapes. -/
def segmentsOfRon : ChangeReader Nat :=
  record "TessellationConfig" [("segments", member (wholeOf 32) fun n _ => n)]

def ofRon : ChangeReader Settings :=
  record "ViewerConfig" [
    ("camera", fun around => (fun f s => { s with camera := f s.camera }) <$>
      CameraSettings.ofRon around),
    ("tessellation", fun around => (fun f s => { s with segments := f s.segments }) <$>
      segmentsOfRon around),
    ("point_size", member single fun x s => { s with pointSize := x }),
    ("headlight", member flag fun b s => { s with headlight := b }),
    ("input", fun around => (fun f s => { s with input := f s.input }) <$>
      InputSettings.ofRon around)]

def parseRon? (text : String) : Option Settings := Ron.parse? ofRon {} text

/-! ### Writing -/

/-- The text of settings, a member a line, with the numbers in their shortest
    form. -/
def ronText (settings : Settings) : String :=
  let number (x : Float32) := pointed (singleText x)
  let line (depth : Nat) (text : String) := "".pushn ' ' (4 * depth) ++ text ++ "\n"
  let member (depth : Nat) (key value : String) := line depth (key ++ ": " ++ value ++ ",")
  let group (key : String) (members : List (String × String)) :=
    line 1 (key ++ ": (") ++ String.join (members.map fun (key, value) => member 2 key value)
      ++ line 1 "),"
  let camera := settings.camera
  let position := ", ".intercalate (camera.startPosition.toList.map number)
  line 0 "("
    ++ group "camera" [
      ("fov_degrees", number camera.fovDegrees),
      ("near", number camera.near),
      ("far", number camera.far),
      ("start_position", "(" ++ position ++ ")")]
    ++ group "tessellation" [("segments", toString settings.segments)]
    ++ member 1 "point_size" (number settings.pointSize)
    ++ member 1 "headlight" (flagText settings.headlight)
    ++ group "input" [
      ("drag_sensitivity", number settings.input.dragSensitivity),
      ("scroll_sensitivity", number settings.input.scrollSensitivity)]
    ++ ")"

end Settings

end VrmlWorld
