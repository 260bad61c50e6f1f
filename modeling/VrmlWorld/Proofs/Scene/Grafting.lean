/-
  VrmlWorld/Proofs/Scene/Grafting.lean
  ====================================
  **A document is grafted onto an inline, and nothing else of the scene changes.**

  `Spliced` describes a splice by the way identities are moved. Here it is said
  what a host can rely on without knowing that way: there is a renaming that
  takes the nodes of the document apart from each other and from all nodes of
  the scene, every node comes along with its name, its kind and its renamed
  children, and what the inline then shows is stored. The only node that does
  not come along is a root that is a group (`Grafted`). So the number of nodes
  can be told too, for which `size` is followed through the three changes that a
  splice is made of.
-/
import VrmlWorld.Proofs.Scene.Handles
import VrmlWorld.Proofs.Scene.Updates
import Mathlib.Logic.Function.Basic

namespace VrmlWorld

/-- The same node with other names for its children. -/
def Node.rename (f : NodeId → NodeId) (node : Node) : Node :=
  { node with children := node.children.map f }

namespace SceneGraph

open Document

variable {graph loaded result : SceneGraph} {id other : NodeId} {inline : Inline}
  {location : Location}

/-! ### The number of nodes -/

theorem size_adopt (graph loaded : SceneGraph) :
    (graph.adopt loaded).size = graph.size + loaded.size := by
  have moved : ∀ slot : Option Node,
      ((slot.map (·.shift graph.nodes.size)).isSome) = slot.isSome := by simp
  simp [size, adopt, List.countP_append, List.countP_map, Function.comp_def, moved]

theorem size_modify (graph : SceneGraph) (id : NodeId) (change : Node → Node) :
    (graph.modify id change).size = graph.size := by
  simp only [size, modify, Array.toList_modify, List.modify_eq_set_getElem?]
  cases slot : graph.nodes.toList[id.index]? with
  | none => rfl
  | some held =>
    obtain ⟨inside, rfl⟩ := List.getElem?_eq_some_iff.1 slot
    -- A node that is counted has been counted before.
    have counted : graph.nodes.toList[id.index].isSome →
        0 < graph.nodes.toList.countP Option.isSome := fun isNode =>
      List.countP_pos_iff.2 ⟨_, List.getElem_mem inside, isNode⟩
    simp only [Option.map_eq_map, Option.map_some, Option.getD_some, List.countP_set inside,
      Option.isSome_map]
    split
    · rename_i isNode
      have := counted isNode
      omega
    · rfl

theorem size_remove (stored : graph.Stored id) : (graph.remove id).size + 1 = graph.size := by
  have inside : id.index < graph.nodes.toList.length := by simpa using stored.lt_size
  obtain ⟨node, found⟩ := stored
  have isNode : graph.nodes.toList[id.index].isSome := by
    rw [get?, Array.getElem?_eq_getElem (by simpa using inside)] at found
    simpa using Option.isSome_of_mem found
  have counted : 0 < graph.nodes.toList.countP Option.isSome :=
    List.countP_pos_iff.2 ⟨_, List.getElem_mem inside, isNode⟩
  simp only [size, remove, Array.toList_setIfInBounds, List.countP_set inside, isNode]
  simp only [if_true, Option.isSome_none, Bool.false_eq_true, if_false]
  omega

theorem frame?_of_get? {root : NodeId} {node : Node} (isRoot : loaded.root = some root)
    (found : loaded.get? root = some node) :
    loaded.frame? = if node.kind.isGroup then some root else none := by
  simp [frame?, isRoot, kind?, found, Option.filter_some]

theorem stored_of_frame? {root : NodeId} (framed : loaded.frame? = some root) :
    loaded.Stored root := by
  obtain ⟨-, group⟩ := Option.filter_eq_some_iff.1 framed
  cases found : loaded.get? root with
  | none => simp [kind?, found] at group
  | some node => exact stored_of_get? found

/-- A splice adds the nodes of the document, less a root that is a group. -/
theorem size_splice? (h : graph.splice? id loaded location = some result) :
    result.size + loaded.frame?.toList.length = graph.size + loaded.size := by
  obtain ⟨inline, -, rfl⟩ := Option.map_eq_some_iff.1 h
  cases isRoot : loaded.root with
  | none =>
    have noFrame : loaded.frame? = none := by simp [frame?, isRoot]
    simp [noFrame, size_modify, size_adopt]
  | some root =>
    simp only [dissolveRoot_adopt graph isRoot, size_modify]
    by_cases framed : loaded.frame? = some root
    · obtain ⟨node, found⟩ := stored_of_frame? framed
      have stored : (graph.adopt loaded).Stored (root.shift graph.nodes.size) :=
        ⟨_, by rw [get?_adopt_shift, found]; rfl⟩
      have removed := size_remove stored
      rw [size_adopt] at removed
      simpa [framed] using removed
    · have noFrame : loaded.frame? = none := by simpa [frame?, isRoot] using framed
      simp [noFrame, size_adopt]

/-! ### What a document shows -/

/-- In place of a root that is a group stand its children, in place of another
    root that root, and nothing stands for a missing one. -/
theorem WellFormed.contents_eq (wellFormed : loaded.WellFormed) :
    loaded.contents = loaded.frame?.elim loaded.root.toList loaded.children := by
  cases isRoot : loaded.root with
  | none => simp [contents, frame?, isRoot]
  | some root =>
    obtain ⟨node, found⟩ := wellFormed.root_stored root isRoot
    rw [contents, isRoot, frame?_of_get? isRoot found]
    by_cases group : node.kind.isGroup
    · simp [found, group, children_eq found]
    · simp [found, group]

/-! ### Grafting -/

/-- A scene with a document grafted onto one of its inlines under other names. -/
structure Grafted (graph : SceneGraph) (id : NodeId) (inline : Inline) (loaded : SceneGraph)
    (location : Location) (rename : NodeId → NodeId) (result : SceneGraph) : Prop where
  root_eq : result.root = graph.root
  base_eq : result.base = graph.base
  /-- Every other node keeps its name, its kind and its children. -/
  others_stay : ∀ other ≠ id, graph.Stored other → result.get? other = graph.get? other
  /-- The inline keeps its name and what is written in it, and now knows where
      its nodes came from. -/
  inline_filled : result.get? id = (graph.get? id).map fun node =>
    { node with
      kind := .inline { inline with status := .loaded, location := some location }
      children := (loaded.frame?.elim loaded.root.toList loaded.children).map rename }
  rename_injective : Function.Injective rename
  renamed_new : ∀ own, ¬ graph.Stored (rename own)
  /-- A root that is a group is dissolved, every other node comes along. -/
  get?_renamed : ∀ own, result.get? (rename own) =
    if loaded.frame? = some own then none else (loaded.get? own).map (·.rename rename)
  stored_cases : ∀ other, result.Stored other → graph.Stored other ∨
    ∃ own, loaded.Stored own ∧ loaded.frame? ≠ some own ∧ other = rename own
  /-- No list of children that has come in, or been filled, names what is not there. -/
  children_stored : ∀ parent child, result.Child parent child →
    parent = id ∨ ¬ graph.Stored parent → ∃ own, child = rename own ∧ result.Stored child
  size_eq : result.size + loaded.frame?.toList.length = graph.size + loaded.size
  /-- The hosts' handles keep their nodes, and a node that has come in is called
      by none that they have. -/
  handles_stay : graph.Kept → graph.HandlesStay result ∧
    ∀ handle own, result.nodeOf? handle = some (rename own) → graph.nodeOf? handle = none

theorem Spliced.stored_cases (spliced : graph.Spliced id inline loaded location result)
    (isInline : graph.inline? id = some inline) (stored : result.Stored other) :
    graph.Stored other ∨ ∃ own, loaded.Stored own ∧ loaded.frame? ≠ some own ∧
      other = own.shift graph.nodes.size := by
  by_cases same : other = id
  · obtain ⟨node, found, -⟩ := inline?_eq_some_iff.1 isInline
    exact .inl (same ▸ stored_of_get? found)
  · obtain ⟨node, found⟩ := stored
    obtain lower | ⟨own, rfl⟩ := lt_size_or_eq_shift graph.nodes.size other
    · exact .inl ⟨node, by rwa [spliced.get?_other other lower same] at found⟩
    · rw [spliced.get?_shift] at found
      split at found
      · cases found
      · rename_i noFrame
        obtain ⟨node', found, -⟩ := Option.map_eq_some_iff.1 found
        exact .inr ⟨own, ⟨node', found⟩, noFrame, rfl⟩

/-- The children that a splice brings in are nodes that have come in with it. -/
theorem Spliced.children_new (spliced : graph.Spliced id inline loaded location result)
    (document : loaded.WellFormed) {parent child : NodeId} (step : result.Child parent child)
    (new : parent = id ∨ ¬ graph.Stored parent) :
    ∃ own : NodeId, child = own.shift graph.nodes.size ∧ result.Stored child := by
  obtain ⟨different, old⟩ | ⟨-, own, member, rfl⟩ | ⟨above, below, -, rfl, inside⟩ :=
    spliced.child_cases step
  · obtain same | unknown := new
    · exact absurd same different
    · exact absurd (stored_of_mem_children old) unknown
  · have shown := document.stored_of_mem_contents member
    exact ⟨own, rfl, spliced.stored_shift shown.1 shown.2⟩
  · refine ⟨below, rfl, spliced.stored_shift (document.children_stored _ _ inside) ?_⟩
    intro framed
    exact document.root_top below (Option.filter_eq_some_iff.1 framed).1 above inside

/-- Splicing a document grafts it, under identities moved past all those of the scene. -/
theorem grafted_of_splice? (document : loaded.Regular)
    (h : graph.splice? id loaded location = some result)
    (isInline : graph.inline? id = some inline) :
    graph.Grafted id inline loaded location (·.shift graph.nodes.size) result := by
  obtain ⟨found, isInline', spliced⟩ := splice?_eq_some h
  obtain rfl : found = inline := Option.some.inj (isInline'.symm.trans isInline)
  have new : ∀ own : NodeId, ¬ graph.Stored (own.shift graph.nodes.size) := fun own stored =>
    shift_ne_of_lt stored.lt_size own rfl
  refine
    { root_eq := spliced.root_eq
      base_eq := spliced.base_eq
      others_stay := fun other different stored =>
        spliced.get?_other other stored.lt_size different
      inline_filled := by rw [← document.wellFormed.contents_eq, spliced.get?_inline]
      rename_injective := fun own own' same => NodeId.shift_inj.1 same
      renamed_new := new
      get?_renamed := spliced.get?_shift
      stored_cases := fun other stored => spliced.stored_cases isInline stored
      children_stored := fun parent child step brought =>
        spliced.children_new document.wellFormed step brought
      size_eq := size_splice? h
      handles_stay := ?_ }
  intro kept
  have stay := (kept.splice? document.kept h).2
  refine ⟨stay, fun handle own named => ?_⟩
  cases before : graph.nodeOf? handle with
  | none => rfl
  | some other =>
    -- A handle that named a node of the scene still names it, and not a new one.
    obtain rfl : other = own.shift graph.nodes.size :=
      Option.some.inj ((stay handle other before).symm.trans named)
    exact absurd (kept.stored_of_nodeOf? before) (new own)

theorem regular_sceneOf (text : String) : (sceneOf text).Regular := by
  refine ⟨wellFormed_sceneOf text, ?_⟩
  cases read : parse? text with
  | none => simpa [sceneOf, read] using kept_empty
  | some answer =>
    obtain ⟨graph, stats⟩ := answer
    simpa [sceneOf, read] using kept_of_parse? read

/-- Every document can be spliced into every inline of every scene, and grafts
    itself there; at a node that is not an inline nothing is done. -/
theorem splice?_grafts_document (graph : SceneGraph) (id : NodeId) (text : String)
    (base : Option Location) (location : Location) :
    let loaded := { sceneOf text with base }
    match graph.inline? id with
    | some inline => ∃ result rename, graph.splice? id loaded location = some result ∧
        graph.updated (.splice id text base location) = result ∧
        graph.Grafted id inline loaded location rename result
    | none => graph.splice? id loaded location = none ∧
        graph.updated (.splice id text base location) = graph := by
  intro loaded
  cases isInline : graph.inline? id with
  | none =>
    have refused : graph.splice? id loaded location = none := by simp [splice?, isInline]
    exact ⟨refused, by simp only [updated, refused, loaded, Option.getD_none]⟩
  | some inline =>
    obtain ⟨result, spliced⟩ : ∃ result, graph.splice? id loaded location = some result := by
      simp [splice?, isInline]
    have grafted := grafted_of_splice? ((regular_sceneOf text).setBase base) spliced isInline
    exact ⟨result, _, spliced, by simp only [updated, spliced, loaded, Option.getD_some], grafted⟩

end SceneGraph

end VrmlWorld
