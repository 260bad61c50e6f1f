/-
  VrmlWorld/Scene/Order.lean
  ==========================
  **Document order.**

  The nodes of a scene in the order in which they are first met by a walk from
  the root through all stored children, whether they are shown or not.
-/
import VrmlWorld.Scene.Graph

namespace VrmlWorld.SceneGraph

/-- Goes on with the walk: `ahead` holds the nodes still to meet, in order, and
    `met` those met so far. Each step takes one node from `ahead`. -/
def meet (graph : SceneGraph) : (steps : Nat) → (ahead : List NodeId) → (met : Array NodeId) →
    Array NodeId
  | 0, _, met => met
  | _, [], met => met
  | steps + 1, id :: ahead, met =>
      if met.contains id then meet graph steps ahead met
      else
        match graph.get? id with
        | none => meet graph steps ahead met
        | some node => meet graph steps (node.children ++ ahead) (met.push id)

/-- The nodes reached from the root, each at its first occurrence. A walk that
    meets each node once takes a step for the root and one for each child. -/
def documentOrder (graph : SceneGraph) : Array NodeId :=
  match graph.root with
  | none => #[]
  | some root =>
      let steps := graph.nodes.foldl (fun n node => n + (node.elim 0 (·.children.length))) 1
      graph.meet steps [root] #[]

end VrmlWorld.SceneGraph
