/-
  VrmlWorld/Proofs/Scene/Enclosure.lean
  =====================================
  **Two scenes that differ within one group.**

  Of two scenes that agree but for what a group encloses, nothing is enclosed in
  the one that the other reaches around the group: on a way around it both scenes
  have the same nodes, so they go the same ways (`DifferWithin.around`).
-/
import VrmlWorld.Proofs.Scene.WellFormed

namespace VrmlWorld.SceneGraph

variable {graph other : SceneGraph} {scope id : NodeId}

/-- The node is reached from the root on a way that does not go through `scope`. -/
def ReachedAround (graph : SceneGraph) (scope id : NodeId) : Prop :=
  ∃ root, graph.root = some root ∧
    Relation.ReflTransGen (fun parent child => parent ≠ scope ∧ graph.Child parent child) root id

theorem ReachedAround.child {child : NodeId} (reached : graph.ReachedAround scope id)
    (apart : id ≠ scope) (step : graph.Child id child) : graph.ReachedAround scope child := by
  obtain ⟨root, isRoot, way⟩ := reached
  exact ⟨root, isRoot, way.tail ⟨apart, step⟩⟩

/-- What is reached at all is reached around the group or is below it. -/
theorem ReachedAround.or_below {root : NodeId} (isRoot : graph.root = some root)
    (reached : Relation.ReflTransGen graph.Child root id) :
    graph.ReachedAround scope id ∨ graph.Below scope id := by
  induction reached with
  | refl => exact .inl ⟨root, isRoot, .refl⟩
  | @tail parent child _ step ih =>
    rcases ih with around | below
    · by_cases same : parent = scope
      · subst same
        exact .inr (.single step)
      · exact .inl (around.child same step)
    · exact .inr (below.tail step)

/-- The node is below the group in one of two scenes. -/
def Within (graph other : SceneGraph) (scope id : NodeId) : Prop :=
  graph.Below scope id ∨ other.Below scope id

/-- Two scenes agree in their root and base, and in all nodes but the children of a
    group that keeps its properties to itself and the nodes below it. What is below
    the group is reached through it only, in both scenes. -/
structure DifferWithin (graph other : SceneGraph) (scope : NodeId) : Prop where
  root : other.root = graph.root
  base : other.base = graph.base
  group : ∃ node children, graph.get? scope = some node ∧
    other.get? scope = some { node with children } ∧ node.kind.restoresState = true
  elsewhere : ∀ id, id ≠ scope → ¬graph.Within other scope id → other.get? id = graph.get? id
  enclosed : ∀ id, graph.Below scope id → ¬graph.ReachedAround scope id
  enclosed_other : ∀ id, other.Below scope id → ¬other.ReachedAround scope id

namespace DifferWithin

theorem not_within (differ : graph.DifferWithin other scope)
    (reached : graph.ReachedAround scope id) (reached' : other.ReachedAround scope id) :
    ¬graph.Within other scope id := by
  rintro (below | below)
  · exact differ.enclosed id below reached
  · exact differ.enclosed_other id below reached'

/-- What one scene reaches around the group, the other one reaches as well, and it is
    below the group in neither. -/
theorem around (differ : graph.DifferWithin other scope) (reached : graph.ReachedAround scope id) :
    other.ReachedAround scope id ∧ ¬graph.Within other scope id := by
  obtain ⟨root, isRoot, way⟩ := reached
  have isRoot' : other.root = some root := differ.root.trans isRoot
  induction way with
  | refl =>
    have reached' : other.ReachedAround scope root := ⟨root, isRoot', .refl⟩
    exact ⟨reached', differ.not_within ⟨root, isRoot, .refl⟩ reached'⟩
  | @tail parent child way step ih =>
    obtain ⟨apart, step⟩ := step
    obtain ⟨reached', notWithin⟩ := ih
    have same := differ.elsewhere parent apart notWithin
    have step' : other.Child parent child := by
      rwa [Child, children, same]
    have further := reached'.child apart step'
    refine ⟨further, differ.not_within ?_ further⟩
    exact ReachedAround.child ⟨root, isRoot, way⟩ apart step

theorem get?_eq (differ : graph.DifferWithin other scope) (reached : graph.ReachedAround scope id)
    (apart : id ≠ scope) : other.get? id = graph.get? id :=
  differ.elsewhere id apart (differ.around reached).2

theorem symm (differ : graph.DifferWithin other scope) : other.DifferWithin graph scope := by
  obtain ⟨node, children, found, found', restores⟩ := differ.group
  refine ⟨differ.root.symm, differ.base.symm, ⟨_, node.children, found', found, restores⟩, ?_,
    differ.enclosed_other, differ.enclosed⟩
  intro id apart outside
  exact (differ.elsewhere id apart fun inside => outside inside.symm).symm

/-- No node that a scene reaches is below the group in the other scene only. -/
theorem within_iff (differ : graph.DifferWithin other scope) {root : NodeId}
    (isRoot : graph.root = some root) (reached : Relation.ReflTransGen graph.Child root id) :
    graph.Within other scope id ↔ graph.Below scope id := by
  refine ⟨fun inside => ?_, .inl⟩
  rcases ReachedAround.or_below isRoot reached with around | below
  · exact absurd inside (differ.around around).2
  · exact below

end DifferWithin

end VrmlWorld.SceneGraph
