/-
  VrmlWorld/Viewer/Mouse.lean
  ===========================
  **The mouse: clicks and drags.**

  While the button is held, a pointer that is at least a threshold away from
  where the button went down is dragging; released nearer than that, the press
  was a click.
-/
import VrmlWorld.Geometry.Vector

namespace VrmlWorld

open VrmlWorld.Geometry

/-- The pointer, and where the button went down while it is held. -/
structure Mouse where
  position : Vec2 := .zero
  /-- Where the pointer was when its movement was last taken. -/
  last : Vec2 := .zero
  pressed : Option Vec2 := none
deriving DecidableEq, Repr

namespace Mouse

/-- How far a held pointer goes before it drags, in pixels. -/
def dragThreshold : Float32 := 5

def move (mouse : Mouse) (position : Vec2) : Mouse := { mouse with position }

def press (mouse : Mouse) : Mouse :=
  { mouse with pressed := some mouse.position, last := mouse.position }

def isDragging (mouse : Mouse) : Bool :=
  match mouse.pressed with
  | some start => dragThreshold ≤ (mouse.position - start).norm
  | none => false

/-- The button goes up. The flag says whether the press was a click. -/
def release (mouse : Mouse) : Bool × Mouse :=
  (mouse.pressed.isSome && !mouse.isDragging, { mouse with pressed := none })

/-- The movement since it was last taken, while the button is held. -/
def takeDelta (mouse : Mouse) : Vec2 × Mouse :=
  if mouse.pressed.isSome then (mouse.position - mouse.last, { mouse with last := mouse.position })
  else (.zero, mouse)

end Mouse

end VrmlWorld
