/-
  VrmlWorld/Inspector/Arguments.lean
  ==================================
  **The arguments of the inspector.**

  One argument names the document. Options stand anywhere, and the last of two
  of the same name holds.
-/
import VrmlWorld.Asset
import VrmlWorld.Geometry.Vector
import VrmlWorld.Number.Numeral
import VrmlWorld.Settings.File

namespace VrmlWorld.Inspector

open VrmlWorld.Geometry

/-- Why the inspector has no answer. -/
inductive Failure where
  | usage
  | invalidValue (option value : String)
  | settings (error : SettingsError)
  | asset (error : AssetError)
deriving DecidableEq, Repr

def Failure.message : Failure → String
  | usage => "usage: wrl_inspect <file.wrl> [--config FILE] [--pick X Y] [--size W H]"
  | invalidValue option value => "invalid value for " ++ option ++ ": " ++ value
  | settings error => error.message
  | asset error => error.message

structure Arguments where
  document : Option String := none
  settings : Option String := none
  /-- The place of the screen whose link is asked for. -/
  pick : Option Vec2 := none
  viewport : Vec2 := ⟨800, 600⟩
deriving Repr

namespace Arguments

def number (option text : String) : Except Failure Float32 :=
  match Number.single? text with
  | some x => .ok x
  | none => .error (.invalidValue option text)

def pair (option first second : String) : Except Failure Vec2 := do
  let x ← number option first
  let y ← number option second
  .ok ⟨x, y⟩

def readOn (given : Arguments) : List String → Except Failure Arguments
  | [] => .ok given
  | "--config" :: path :: rest => readOn { given with settings := some path } rest
  | "--pick" :: x :: y :: rest => do
      let place ← pair "--pick" x y
      readOn { given with pick := some place } rest
  | "--size" :: x :: y :: rest => do
      let viewport ← pair "--size" x y
      readOn { given with viewport } rest
  | ["--pick", x] => do
      let _ ← number "--pick" x
      .error .usage
  | ["--size", x] => do
      let _ ← number "--size" x
      .error .usage
  | argument :: rest =>
      if given.document.isNone && !"--".isPrefixOf argument then
        readOn { given with document := some argument } rest
      else .error .usage

def ofList (arguments : List String) : Except Failure Arguments := readOn {} arguments

end Arguments

end VrmlWorld.Inspector
