/-
  VrmlWorld/Viewer/Viewpoint.lean
  ===============================
  **The viewpoints of a scene.**
-/
import VrmlWorld.Scene.Placement

namespace VrmlWorld

open VrmlWorld.Geometry

structure Viewpoint where
  node : NodeId
  camera : CameraNode
  world : Mat4
deriving DecidableEq, Repr

/-- The viewpoints of a scene, in document order. -/
def SceneGraph.viewpoints (graph : SceneGraph) (viewer : Vec3) : List Viewpoint :=
  (graph.placed viewer).filterMap fun placed =>
    match placed.kind with
    | .camera camera => some ⟨placed.node, camera, placed.matrix⟩
    | _ => none

end VrmlWorld
