/-
  VrmlWorld/Settings/Toml.lean
  ============================
  **Settings as TOML.**

  Every setting may be left out and keeps its standard value; keys that name no
  setting are passed over. A group of settings is a table, or an array of its
  settings in their order.
-/
import VrmlWorld.Settings
import VrmlWorld.Toml.Document

namespace VrmlWorld

open VrmlWorld.Geometry Number

namespace Toml.Value

/-! ### Reading -/

def single? : Value → Option Float32
  | float x => some x.toFloat32
  | integer n => some (Numeral.mk (n < 0) n.natAbs 0).toSingle
  | _ => none

/-- A whole number of 32 bits. -/
def whole? : Value → Option Nat
  | integer n => if 0 ≤ n ∧ n < Nat.pow 2 32 then some n.toNat else none
  | _ => none

/-- A yes or no. -/
def flag? : Value → Option Bool
  | boolean flag => some flag
  | _ => none

/-- The first three numbers of an array. -/
def vector? : Value → Option Vec3
  | array (x :: y :: z :: _) => do some ⟨← x.single?, ← y.single?, ← z.single?⟩
  | _ => none

/-- How the members of a group are found, by their position and their name. A
    moment is a group without members. -/
def members? : Value → Option (Nat → String → Option Value)
  | table _ entries => some fun _ name => entries.lookup name
  | array items => some fun position _ => items[position]?
  | tables elements => some fun position _ => elements[position]?.map (.table .header)
  | moment => some fun _ _ => none
  | _ => none

end Toml.Value

/-- Reads a member of a group that may be missing. -/
def Toml.member? {α : Type} (read : Toml.Value → Option α) (standard : α) :
    Option Toml.Value → Option α
  | none => some standard
  | some value => read value

open Toml (member?)

def CameraSettings.ofToml? (value : Toml.Value) : Option CameraSettings := do
  let find ← value.members?
  let standard : CameraSettings := {}
  some {
    fovDegrees := ← member? (·.single?) standard.fovDegrees (find 0 "fov_degrees")
    near := ← member? (·.single?) standard.near (find 1 "near")
    far := ← member? (·.single?) standard.far (find 2 "far")
    startPosition := ← member? (·.vector?) standard.startPosition (find 3 "start_position") }

def InputSettings.ofToml? (value : Toml.Value) : Option InputSettings := do
  let find ← value.members?
  let standard : InputSettings := {}
  some {
    dragSensitivity :=
      ← member? (·.single?) standard.dragSensitivity (find 0 "drag_sensitivity")
    scrollSensitivity :=
      ← member? (·.single?) standard.scrollSensitivity (find 1 "scroll_sensitivity") }

namespace Settings

/-- Reads the count of parts of round shapes from its group. -/
def segmentsOfToml? (value : Toml.Value) : Option Nat := do
  let find ← value.members?
  member? (·.whole?) ({} : Settings).segments (find 0 "segments")

def ofToml? (entries : Toml.Entries) : Option Settings := do
  let standard : Settings := {}
  some {
    camera := ← member? CameraSettings.ofToml? standard.camera (entries.lookup "camera")
    segments := ← member? segmentsOfToml? standard.segments (entries.lookup "tessellation")
    pointSize := ← member? (·.single?) standard.pointSize (entries.lookup "point_size")
    headlight := ← member? (·.flag?) standard.headlight (entries.lookup "headlight")
    input := ← member? InputSettings.ofToml? standard.input (entries.lookup "input") }

def parseToml? (text : String) : Option Settings := Toml.Entries.parse? text >>= ofToml?

end Settings

/-! ### Writing -/

/-- The text of a number: that of the same number in double precision, with a
    point in any case. What is no number is written without its sign. -/
def Toml.numberText (x : Float32) : String :=
  if x.isNaN then "nan" else pointed (doubleText x.toFloat)

/-- The text of settings: single ones first, then a table for each group, the
    elements of arrays on lines of their own. -/
def Settings.tomlText (settings : Settings) : String :=
  let number (key : String) (x : Float32) := key ++ " = " ++ Toml.numberText x
  let camera := settings.camera
  let lines :=
    [number "point_size" settings.pointSize,
      "headlight = " ++ flagText settings.headlight,
      "",
      "[camera]",
      number "fov_degrees" camera.fovDegrees,
      number "near" camera.near,
      number "far" camera.far,
      "start_position = ["]
    ++ camera.startPosition.toList.map (fun x => "    " ++ Toml.numberText x ++ ",")
    ++ ["]",
      "",
      "[tessellation]",
      "segments = " ++ toString settings.segments,
      "",
      "[input]",
      number "drag_sensitivity" settings.input.dragSensitivity,
      number "scroll_sensitivity" settings.input.scrollSensitivity]
  String.join (lines.map (· ++ "\n"))

end VrmlWorld
