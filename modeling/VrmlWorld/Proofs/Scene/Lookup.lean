/-
  VrmlWorld/Proofs/Scene/Lookup.lean
  ==================================
  **What each change of a stored scene does to the look-up of a node.**

  Every change is described once, by the nodes that `SceneGraph.get?` finds
  behind it. Later files reason about scenes through these equations and never
  open the array of nodes. Identities are compared by their index: those below
  `nodes.size` have been given out, the others are still free.
-/
import VrmlWorld.Document.Assembly
import Mathlib.Data.List.Basic

namespace VrmlWorld

@[simp] theorem NodeId.shift_index (offset : Nat) (id : NodeId) :
    (id.shift offset).index = offset + id.index := rfl

@[simp] theorem NodeId.shift_inj {offset : Nat} {id other : NodeId} :
    id.shift offset = other.shift offset ↔ id = other := by
  cases id
  cases other
  simp [NodeId.shift]

@[simp] theorem Node.shift_kind (offset : Nat) (node : Node) :
    (node.shift offset).kind = node.kind := rfl

@[simp] theorem Node.shift_children (offset : Nat) (node : Node) :
    (node.shift offset).children = node.children.map (·.shift offset) := rfl

namespace SceneGraph

variable {graph loaded : SceneGraph} {id other : NodeId} {node : Node}

/-- An identity names a stored node. -/
def Stored (graph : SceneGraph) (id : NodeId) : Prop := ∃ node, graph.get? id = some node

theorem stored_of_get? (h : graph.get? id = some node) : graph.Stored id := ⟨node, h⟩

/-- Only identities that have been given out name nodes. -/
theorem Stored.lt_size (h : graph.Stored id) : id.index < graph.nodes.size := by
  obtain ⟨node, found⟩ := h
  by_contra beyond
  simp [get?, Array.getElem?_eq_none (Nat.le_of_not_lt beyond)] at found

@[simp] theorem get?_empty (id : NodeId) : empty.get? id = none := by
  simp [empty, get?]

theorem children_eq (h : graph.get? id = some node) : graph.children id = node.children := by
  simp [children, h]

theorem stored_of_mem_children (h : other ∈ graph.children id) : graph.Stored id := by
  cases found : graph.get? id with
  | none => simp [children, found] at h
  | some node => exact stored_of_get? found

/-! ### Changes of one node -/

@[simp] theorem get?_insert (graph : SceneGraph) (node : Node) (id : NodeId) :
    (graph.insert node).get? id = if id = graph.nextId then some node else graph.get? id := by
  obtain ⟨index⟩ := id
  by_cases h : index = graph.nodes.size
  · simp [get?, insert, nextId, h]
  · simp [get?, insert, nextId, Array.getElem?_push, h]

@[simp] theorem get?_modify (graph : SceneGraph) (id : NodeId) (change : Node → Node)
    (other : NodeId) :
    (graph.modify id change).get? other =
      if other = id then (graph.get? other).map change else graph.get? other := by
  obtain ⟨index⟩ := id
  obtain ⟨place⟩ := other
  by_cases h : place = index
  · subst h
    cases found : graph.nodes[place]? with
    | none => simp [get?, modify, Array.getElem?_modify, found]
    | some slot => simp [get?, modify, Array.getElem?_modify, found]
  · simp [get?, modify, Array.getElem?_modify, h, Ne.symm h]

theorem stored_modify (graph : SceneGraph) (id : NodeId) (change : Node → Node) (other : NodeId) :
    (graph.modify id change).Stored other ↔ graph.Stored other := by
  by_cases same : other = id
  · cases found : graph.get? id <;> simp [Stored, same, found]
  · simp [Stored, same]

@[simp] theorem get?_remove (graph : SceneGraph) (id other : NodeId) :
    (graph.remove id).get? other = if other = id then none else graph.get? other := by
  obtain ⟨index⟩ := id
  obtain ⟨place⟩ := other
  by_cases h : place = index
  · subst h
    by_cases inside : place < graph.nodes.size <;> simp [get?, remove, inside]
  · simp [get?, remove, h, Ne.symm h]

@[simp] theorem size_nodes_insert (graph : SceneGraph) (node : Node) :
    (graph.insert node).nodes.size = graph.nodes.size + 1 := by simp [insert]

@[simp] theorem size_nodes_modify (graph : SceneGraph) (id : NodeId) (change : Node → Node) :
    (graph.modify id change).nodes.size = graph.nodes.size := by simp [modify]

@[simp] theorem size_nodes_remove (graph : SceneGraph) (id : NodeId) :
    (graph.remove id).nodes.size = graph.nodes.size := by simp [remove]

@[simp] theorem root_modify (graph : SceneGraph) (id : NodeId) (change : Node → Node) :
    (graph.modify id change).root = graph.root := rfl

@[simp] theorem root_remove (graph : SceneGraph) (id : NodeId) :
    (graph.remove id).root = graph.root := rfl

/-! ### The nodes of another scene -/

@[simp] theorem size_nodes_adopt (graph loaded : SceneGraph) :
    (graph.adopt loaded).nodes.size = graph.nodes.size + loaded.nodes.size := by
  simp [adopt]

@[simp] theorem root_adopt (graph loaded : SceneGraph) : (graph.adopt loaded).root = graph.root := rfl

theorem get?_adopt_of_lt (h : id.index < graph.nodes.size) :
    (graph.adopt loaded).get? id = graph.get? id := by
  simp [get?, adopt, Array.getElem?_append_left h]

/-- The nodes that come in are found under their moved identities. -/
theorem get?_adopt_shift (graph loaded : SceneGraph) (id : NodeId) :
    (graph.adopt loaded).get? (id.shift graph.nodes.size) =
      (loaded.get? id).map (·.shift graph.nodes.size) := by
  cases found : loaded.nodes[id.index]? with
  | none => simp [get?, adopt, Array.getElem?_append_right, found]
  | some slot => simp [get?, adopt, Array.getElem?_append_right, found]

/-- An identity of the common scene is one of the scene or a moved one. -/
theorem lt_size_or_eq_shift (size : Nat) (id : NodeId) :
    id.index < size ∨ ∃ own : NodeId, id = own.shift size := by
  by_cases h : id.index < size
  · exact .inl h
  · right
    exact ⟨⟨id.index - size⟩, by cases id; simp [NodeId.shift] at h ⊢; omega⟩

end SceneGraph

end VrmlWorld
