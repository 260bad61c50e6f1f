/-
  VrmlWorld/Proofs/Scene/WellFormed.lean
  ======================================
  **Scenes whose lists of children can be walked.**

  A scene is well formed when its root and all children are stored nodes and no
  node is found below itself. Then the number of nodes below a node is a rank
  that every step from a node to a child lowers (`WellFormed.descent_lt`). The
  rank is less than the number of identities, so the depth to which
  `SceneGraph.unfolding` goes is never what ends a walk: the unfolding is the
  whole tree of occurrences (`WellFormed.unfolding_complete`), and a greater
  depth gives the same tree.
-/
import VrmlWorld.Proofs.Scene.Lookup
import VrmlWorld.Scene.Unfolding
import Mathlib.Data.Finset.Card
import Mathlib.Data.Finset.Range
import Mathlib.Logic.Relation

namespace VrmlWorld

open VrmlWorld.Geometry

/-! ### Shown children -/

/-- The shown children keep their order. -/
theorem active_sublist {α : Type} (kind : NodeKind) (children : List α) (placement : Mat4)
    (viewer : Vec3) : (active kind children placement viewer).Sublist children := by
  have member (position : Nat) : (memberAt children position).Sublist children := by
    rw [memberAt]
    cases found : children[position]? with
    | none => exact List.nil_sublist _
    | some child => exact List.singleton_sublist.2 (List.mem_of_getElem? found)
  cases kind with
  | switch switch =>
    simp only [active]
    split
    · exact .refl _
    · split
      · exact List.nil_sublist _
      · exact member _
  | lod lod =>
    simp only [active]
    split
    · exact member _
    · exact List.nil_sublist _
  | inline inline =>
    simp only [active]
    split
    · exact .refl _
    · exact List.nil_sublist _
  | _ => exact .refl _

/-- Which children are shown is a matter of their positions alone. -/
theorem active_map {α β : Type} (f : α → β) (kind : NodeKind) (children : List α)
    (placement : Mat4) (viewer : Vec3) :
    active kind (children.map f) placement viewer = (active kind children placement viewer).map f := by
  cases kind with
  | switch switch =>
    simp only [active]
    split
    · rfl
    · split
      · rfl
      · simp [memberAt, Option.toList_map]
  | lod lod =>
    simp only [active, List.length_map]
    split
    · simp [memberAt, Option.toList_map]
    · rfl
  | inline inline =>
    simp only [active]
    split
    · rfl
    · rfl
  | _ => rfl

/-- The shown children of a node are those at the shown positions. -/
theorem active_eq_map_shown (node : Node) (placement : Mat4) (viewer : Vec3) :
    active node.kind node.children placement viewer =
      (Occurrence.shown node.kind node.children.toArray.size placement viewer).map
        (fun ⟨index, within⟩ => node.children.toArray[index]) := by
  rw [Occurrence.shown, ← active_map]
  congr 1
  apply List.ext_getElem
  · simp
  · intro position _ _
    simp

namespace SceneGraph

/-! ### Children and descendants -/

/-- A node stands in the list of children of another one. -/
def Child (graph : SceneGraph) (parent child : NodeId) : Prop := child ∈ graph.children parent

/-- A node is reached from another one by one step or more through lists of
    children. -/
def Below (graph : SceneGraph) : NodeId → NodeId → Prop := Relation.TransGen graph.Child

/-- No node reaches itself. -/
def Acyclic (graph : SceneGraph) : Prop := ∀ id, ¬ graph.Below id id

/-- The root and all children are stored, the root stands in no list of
    children, and no node reaches itself. -/
structure WellFormed (graph : SceneGraph) : Prop where
  root_stored : ∀ root, graph.root = some root → graph.Stored root
  root_top : ∀ root, graph.root = some root → ∀ parent, ¬ graph.Child parent root
  children_stored : ∀ parent child, graph.Child parent child → graph.Stored child
  acyclic : ∀ id, ¬ graph.Below id id

/-- A function on identities that every step to a child lowers. -/
def Ranked (graph : SceneGraph) (rank : NodeId → Nat) : Prop :=
  ∀ parent child, graph.Child parent child → rank child < rank parent

variable {graph : SceneGraph} {id parent child : NodeId}

theorem Ranked.below_lt {rank : NodeId → Nat} (ranked : graph.Ranked rank)
    (below : graph.Below parent child) : rank child < rank parent := by
  induction below with
  | single step => exact ranked _ _ step
  | tail _ step ih => exact (ranked _ _ step).trans ih

theorem Ranked.acyclic {rank : NodeId → Nat} (ranked : graph.Ranked rank) (id : NodeId) :
    ¬ graph.Below id id :=
  fun below => Nat.lt_irrefl _ (ranked.below_lt below)

/-- A scene has no cycles if each child has been stored before its parents. -/
theorem ranked_index (older : ∀ index < graph.nodes.size, ∀ child ∈ graph.children ⟨index⟩,
    child.index < index) : graph.Ranked NodeId.index :=
  fun parent child step => older parent.index (stored_of_mem_children step).lt_size child step

theorem child_iff_of_get? {node : Node} (found : graph.get? parent = some node) :
    graph.Child parent child ↔ child ∈ node.children := by
  rw [Child, children_eq found]

theorem child_of_position {node : Node} (found : graph.get? parent = some node) {position : Nat}
    (within : position < node.children.toArray.size) :
    graph.Child parent node.children.toArray[position] := by
  rw [child_iff_of_get? found]
  exact List.mem_toArray.1 (Array.getElem_mem _)

/-! ### The rank of a node -/

open Classical in
/-- The number of identities below a node. -/
noncomputable def descent (graph : SceneGraph) (id : NodeId) : Nat :=
  ((Finset.range graph.nodes.size).filter fun index => graph.Below id ⟨index⟩).card

/-- What is below a child is below its parent, and so is the child itself,
    which is not below itself. -/
theorem Acyclic.descent_lt (acyclic : graph.Acyclic) (step : graph.Child parent child)
    (stored : graph.Stored child) : graph.descent child < graph.descent parent := by
  classical
  refine Finset.card_lt_card ((Finset.ssubset_iff_of_subset ?_).2 ⟨child.index, ?_, ?_⟩)
  · intro index
    simp only [Finset.mem_filter]
    exact fun ⟨inside, below⟩ => ⟨inside, below.head step⟩
  · exact Finset.mem_filter.2 ⟨Finset.mem_range.2 stored.lt_size, .single step⟩
  · intro member
    exact acyclic child (Finset.mem_filter.1 member).2

theorem WellFormed.descent_lt (wellFormed : graph.WellFormed) (step : graph.Child parent child) :
    graph.descent child < graph.descent parent :=
  Acyclic.descent_lt wellFormed.acyclic step (wellFormed.children_stored _ _ step)

theorem Acyclic.descent_lt_size (acyclic : graph.Acyclic) (stored : graph.Stored id) :
    graph.descent id < graph.nodes.size := by
  classical
  have inside : id.index ∈ Finset.range graph.nodes.size := Finset.mem_range.2 stored.lt_size
  have proper : (Finset.range graph.nodes.size).filter (fun index => graph.Below id ⟨index⟩) ⊂
      Finset.range graph.nodes.size := by
    refine (Finset.ssubset_iff_of_subset (Finset.filter_subset _ _)).2 ⟨id.index, inside, ?_⟩
    intro member
    exact acyclic id (Finset.mem_filter.1 member).2
  simpa [descent] using Finset.card_lt_card proper

theorem WellFormed.descent_lt_size (wellFormed : graph.WellFormed) (stored : graph.Stored id) :
    graph.descent id < graph.nodes.size :=
  Acyclic.descent_lt_size wellFormed.acyclic stored

/-! ### Complete unfoldings -/

/-- A tree of occurrences that stops nowhere before the lists of children do:
    each occurrence is that of a stored node, and its children are those of the
    node, in order. No depth is mentioned, so such a tree is what a walk by
    recursion on child identities goes through. -/
inductive Unfolds (graph : SceneGraph) : NodeId → Occurrence → Prop where
  | node {id : NodeId} {node : Node} {child : Fin node.children.toArray.size → Occurrence}
      (found : graph.get? id = some node)
      (below : ∀ index (within : index < node.children.toArray.size),
        graph.Unfolds node.children.toArray[index] (child ⟨index, within⟩)) :
      graph.Unfolds id (.node id node.kind node.children.toArray.size child)

theorem Unfolds.unique {occurrence other : Occurrence} (first : graph.Unfolds id occurrence)
    (second : graph.Unfolds id other) : occurrence = other := by
  induction first generalizing other with
  | @node id node child found below ih =>
    obtain @⟨_, node', child', found', below'⟩ := second
    obtain rfl : node = node' := Option.some.inj (found.symm.trans found')
    congr 1
    funext position
    exact ih position.1 position.2 (below' position.1 position.2)

theorem WellFormed.unfold_complete (wellFormed : graph.WellFormed) (stored : graph.Stored id)
    {depth : Nat} (deep : graph.descent id < depth) :
    graph.Unfolds id (graph.unfold depth id) := by
  induction depth generalizing id with
  | zero => exact absurd deep (Nat.not_lt_zero _)
  | succ depth ih =>
    obtain ⟨node, found⟩ := stored
    simp only [unfold, found]
    refine .node found fun index within => ?_
    have step := child_of_position found within
    have lower := wellFormed.descent_lt step
    exact ih (wellFormed.children_stored _ _ step) (by omega)

/-- From a stored node on, every depth beyond the number of identities gives
    the whole tree. -/
theorem WellFormed.unfold_eq (wellFormed : graph.WellFormed) (stored : graph.Stored id)
    {depth : Nat} (deep : graph.nodes.size ≤ depth) :
    graph.unfold depth id = graph.unfold (graph.nodes.size + 1) id := by
  have rank := wellFormed.descent_lt_size stored
  exact (wellFormed.unfold_complete stored (by omega)).unique
    (wellFormed.unfold_complete stored (by omega))

/-- The unfolding of a scene is the whole tree of its occurrences. -/
theorem WellFormed.unfolding_complete (wellFormed : graph.WellFormed) {root : NodeId}
    (isRoot : graph.root = some root) :
    ∃ occurrence, graph.unfolding = some occurrence ∧ graph.Unfolds root occurrence := by
  have stored := wellFormed.root_stored root isRoot
  refine ⟨graph.unfold (graph.nodes.size + 1) root, by simp [unfolding, isRoot], ?_⟩
  exact wellFormed.unfold_complete stored ((wellFormed.descent_lt_size stored).trans (by omega))

end SceneGraph

end VrmlWorld
