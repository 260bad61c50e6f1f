/-
  VrmlWorld/Proofs/Scene/Embedding.lean
  =====================================
  **A scene within another one, under other identities.**

  A document that is spliced into an inline is still there: its nodes have new
  identities, and their lists of children have been renamed with them
  (`Spliced.embeds`). Whatever walks through a scene walks through a tree of
  occurrences, and the tree from an embedded node on is that of the document with
  its nodes renamed (`Embeds.unfold_eq`). So a walk needs to be compared with
  itself on renamed trees only, and the comparison does not depend on what else
  the larger scene holds.
-/
import VrmlWorld.Proofs.Scene.Splice

namespace VrmlWorld

namespace Occurrence

/-- The same tree with other names for its nodes. -/
def rename (f : NodeId → NodeId) : Occurrence → Occurrence
  | .absent id => .absent (f id)
  | .node id kind arity child => .node (f id) kind arity fun position => rename f (child position)

/-- All nodes of a tree have a property. -/
def All (P : NodeId → Prop) : Occurrence → Prop
  | .absent id => P id
  | .node id _ _ child => P id ∧ ∀ position, All P (child position)

/-- Occurrences of a node with the same children are the same, however the
    children are counted. -/
theorem node_congr {id : NodeId} {kind : NodeKind} {arity arity' : Nat}
    {child : Fin arity → Occurrence} {child' : Fin arity' → Occurrence} (sameArity : arity = arity')
    (same : ∀ index (within : index < arity) (within' : index < arity'),
      child ⟨index, within⟩ = child' ⟨index, within'⟩) :
    node id kind arity child = node id kind arity' child' := by
  subst sameArity
  congr 1
  funext position
  exact same position.1 position.2 position.2

end Occurrence

namespace SceneGraph

variable {graph own shown loaded result : SceneGraph} {f : NodeId → NodeId} {known : NodeId → Prop}
  {id : NodeId} {inline : Inline} {location : Location}

theorem Unfolds.of_children (node : Node) {arity : Nat} {child : Fin arity → Occurrence}
    (found : graph.get? id = some node) (counted : node.children.length = arity)
    (below : ∀ index (within : index < node.children.length) (within' : index < arity),
      graph.Unfolds node.children[index] (child ⟨index, within'⟩)) :
    graph.Unfolds id (.node id node.kind arity child) := by
  subst counted
  apply Unfolds.node found
  intro index within
  simpa using below index within within

/-- A tree is that of the stored nodes alone. -/
theorem Unfolds.congr {occurrence : Occurrence} (unfolds : graph.Unfolds id occurrence)
    (other : SceneGraph) (same : ∀ id, other.get? id = graph.get? id) :
    other.Unfolds id occurrence := by
  induction unfolds with
  | node found below ih => exact .node ((same _).trans found) ih

theorem unfolds_unfold_succ {node : Node} (found : graph.get? id = some node) {depth : Nat}
    (below : ∀ child ∈ node.children, graph.Unfolds child (graph.unfold depth child)) :
    graph.Unfolds id (graph.unfold (depth + 1) id) := by
  simp only [unfold, found]
  exact .node found fun index within => below _ (List.mem_toArray.1 (Array.getElem_mem _))

/-- The known nodes of a scene are found in another one under other names, with
    the names of their children changed alike. -/
structure Embeds (own : SceneGraph) (f : NodeId → NodeId) (known : NodeId → Prop)
    (shown : SceneGraph) : Prop where
  stored : ∀ id, known id → ∃ node, own.get? id = some node ∧
    shown.get? (f id) = some { node with children := node.children.map f }
  closed : ∀ parent child, known parent → own.Child parent child → known child

theorem Embeds.all_unfold (embeds : own.Embeds f known shown) (isKnown : known id) (depth : Nat) :
    (own.unfold depth id).All known := by
  induction depth generalizing id with
  | zero => exact isKnown
  | succ depth ih =>
    obtain ⟨node, found, -⟩ := embeds.stored id isKnown
    simp only [unfold, found]
    refine ⟨isKnown, fun position => ih (embeds.closed id _ isKnown ?_)⟩
    exact child_of_position found position.2

theorem Embeds.unfold_eq (embeds : own.Embeds f known shown) (isKnown : known id) (depth : Nat) :
    shown.unfold depth (f id) = (own.unfold depth id).rename f := by
  induction depth generalizing id with
  | zero => rfl
  | succ depth ih =>
    obtain ⟨node, found, foundShown⟩ := embeds.stored id isKnown
    simp only [unfold, found, foundShown, Occurrence.rename]
    refine Occurrence.node_congr (by simp) fun index within within' => ?_
    have isChild := child_of_position found within'
    simpa using ih (embeds.closed id _ isKnown isChild)

theorem Embeds.unfolds (embeds : own.Embeds f known shown) (isKnown : known id)
    {occurrence : Occurrence} (unfolds : own.Unfolds id occurrence) :
    shown.Unfolds (f id) (occurrence.rename f) := by
  induction unfolds with
  | @node id node child found below ih =>
    obtain ⟨node', found', foundShown⟩ := embeds.stored id isKnown
    obtain rfl : node = node' := Option.some.inj (found.symm.trans found')
    refine Unfolds.of_children { node with children := node.children.map f } foundShown (by simp)
      fun index within within' => ?_
    have isChild := child_of_position found within'
    simpa using ih index within' (embeds.closed id _ isKnown isChild)

/-- A document that has been spliced is there with all of its nodes but the frame. -/
theorem Spliced.embeds (spliced : graph.Spliced id inline loaded location result)
    (document : loaded.WellFormed) :
    loaded.Embeds (·.shift graph.nodes.size)
      (fun own => loaded.Stored own ∧ loaded.frame? ≠ some own) result where
  stored := by
    rintro own ⟨⟨node, found⟩, not_frame⟩
    refine ⟨node, found, ?_⟩
    rw [spliced.get?_shift, if_neg not_frame, found]
    rfl
  closed := by
    rintro parent child - isChild
    refine ⟨document.children_stored _ _ isChild, fun framed => ?_⟩
    exact document.root_top child (Option.filter_eq_some_iff.1 framed).1 parent isChild

theorem Spliced.get?_filled (spliced : graph.Spliced id inline loaded location result) {node : Node}
    (found : graph.get? id = some node) :
    result.get? id = some
      { node with
        kind := .inline { inline with status := .loaded, location := some location }
        children := loaded.contents.map (·.shift graph.nodes.size) } := by
  rw [spliced.get?_inline, found]
  rfl

/-- The tree below a filled inline is complete as soon as the trees of the contents
    are. -/
theorem Spliced.unfolds_inline (spliced : graph.Spliced id inline loaded location result)
    (document : loaded.WellFormed) (stored : graph.Stored id) {depth : Nat}
    (deep : ∀ own ∈ loaded.contents, loaded.descent own < depth) :
    result.Unfolds id (result.unfold (depth + 1) id) := by
  obtain ⟨node, found⟩ := stored
  refine unfolds_unfold_succ (spliced.get?_filled found) fun child member => ?_
  obtain ⟨own, among, rfl⟩ := List.mem_map.1 member
  have isKnown := document.stored_of_mem_contents among
  rw [(spliced.embeds document).unfold_eq isKnown]
  exact (spliced.embeds document).unfolds isKnown
    (document.unfold_complete isKnown.1 (deep own among))

end SceneGraph

end VrmlWorld
