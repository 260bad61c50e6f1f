/-
  VrmlWorld/Scene/Placement.lean
  ==============================
  **Where the nodes of a scene stand in the world.**

  Transforms add up along a list of children and end with it. A node that is
  neither a group nor a transform is placed by the matrix that has added up
  before it. Lights and viewpoints are found by their placements, in document
  order, before anything is drawn.
-/
import VrmlWorld.Scene.Unfolding

namespace VrmlWorld

open VrmlWorld.Geometry

structure Placed where
  node : NodeId
  kind : NodeKind
  matrix : Mat4
deriving Repr

namespace Occurrence

/-- The nodes placed from an occurrence on, in order, and the matrix that
    holds for the next sibling. -/
def placements (viewer : Vec3) : Occurrence → Mat4 → Mat4 × List Placed
  | .absent _, matrix => (matrix, [])
  | .node id kind arity child, matrix =>
      match kind with
      | .transform transform => (matrix * transform.matrix, [])
      | .matrixTransform own => (matrix * own, [])
      | _ =>
          if kind.isGroup then
            let (_, found) := (shown kind arity matrix viewer).foldl
              (fun (inner, found) position =>
                let (inner, more) := placements viewer (child position) inner
                (inner, found ++ more))
              (matrix, [])
            (matrix, found)
          else (matrix, [⟨id, kind, matrix⟩])

end Occurrence

/-- The placed nodes of a scene as a viewer sees it. -/
def SceneGraph.placed (graph : SceneGraph) (viewer : Vec3) : List Placed :=
  match graph.unfolding with
  | some root => (root.placements viewer .identity).2
  | none => []

end VrmlWorld
