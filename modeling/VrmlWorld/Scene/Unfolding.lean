/-
  VrmlWorld/Scene/Unfolding.lean
  ==============================
  **A scene as the tree of its occurrences.**

  A node that is used in several places occurs several times in what is shown.
  Unfolding a stored scene from a node gives the tree of these occurrences;
  every walk through a scene is a recursion on that tree. The children of an
  occurrence are a function of their position, so those that a walk leaves out
  are never computed.

  Unfolding goes down to a given depth. In a scene without cycles no path is
  longer than the number of stored nodes, and `SceneGraph.unfolding` takes that
  depth.
-/
import VrmlWorld.Scene.Graph
import VrmlWorld.Scene.Selection

namespace VrmlWorld

open VrmlWorld.Geometry

/-- One place of a node in what is shown. -/
inductive Occurrence where
  /-- An identity without a node. -/
  | absent (id : NodeId)
  | node (id : NodeId) (kind : NodeKind) (arity : Nat) (child : Fin arity → Occurrence)

namespace Occurrence

def id : Occurrence → NodeId
  | absent id => id
  | node id .. => id

/-- What occurs, if there is a node. -/
def kind? : Occurrence → Option NodeKind
  | absent _ => none
  | node _ kind .. => some kind

def children : Occurrence → List Occurrence
  | absent _ => []
  | node _ _ _ child => List.ofFn child

abbrev shown (kind : NodeKind) (arity : Nat) (placement : Mat4) (viewer : Vec3) :
    List (Fin arity) :=
  active kind (List.finRange arity) placement viewer

end Occurrence

namespace SceneGraph

/-- The occurrences from a node on, down to a depth. -/
def unfold (graph : SceneGraph) : (depth : Nat) → NodeId → Occurrence
  | 0, id => .absent id
  | depth + 1, id =>
      match graph.get? id with
      | none => .absent id
      | some node =>
          let children := node.children.toArray
          .node id node.kind children.size fun position => unfold graph depth children[position]

/-- The occurrences of the whole scene, unless it is empty. -/
def unfolding (graph : SceneGraph) : Option Occurrence :=
  graph.root.map (graph.unfold (graph.nodes.size + 1))

end SceneGraph

end VrmlWorld
