/-
  VrmlWorld/Scene/Selection.lean
  ==============================
  **Which children of a group are shown.**

  Drawing, lighting, picking and the search for viewpoints all ask `active`, so
  a child that is switched off is absent from each of them alike.
-/
import VrmlWorld.Scene.Node

namespace VrmlWorld

open VrmlWorld.Geometry

/-- The position of the child that a level of detail shows at a distance: that
    of the first threshold beyond the distance, or one past all thresholds,
    but at most the last child. -/
def selectLod {α : Type} [LT α] [DecidableLT α] (range : List α) (count : Nat) (distance : α) :
    Option Nat :=
  if count = 0 then none else some (min (range.findIdx (distance < ·)) (count - 1))

/-- The member at a position, as a list. -/
def memberAt {α : Type} (members : List α) (position : Nat) : List α := members[position]?.toList

/-- The shown members among the children of a node, in order. The matrix places
    the group in the world, where distances to the viewer are measured. -/
def active {α : Type} (kind : NodeKind) (children : List α) (placement : Mat4) (viewer : Vec3) :
    List α :=
  match kind with
  | .switch switch =>
      if switch.whichChild = Switch.all then children
      else if switch.whichChild < 0 then []
      else memberAt children switch.whichChild.toNat
  | .lod lod =>
      let distance := (viewer - placement.mapPoint lod.center).norm
      match selectLod lod.range children.length distance with
      | some position => memberAt children position
      | none => []
  | .inline inline => if inline.status = .loaded then children else []
  | _ => children

end VrmlWorld
