/-
  VrmlWorld/Proofs/Scene/Splice.lean
  ==================================
  **What splicing a document into an inline does.**

  `Spliced` says it node by node: the nodes of the scene stay, but for the
  inline, which is loaded and has the contents of the document as its children;
  the nodes of the document are found under moved identities, but for a root
  that is a group, which is only the frame of its children and is dissolved.

  The scene stays well formed: the rank of the old nodes is lifted past all
  ranks of the document, so the inline is above everything that it shows,
  although its identity is the smaller one.
-/
import VrmlWorld.Proofs.Scene.WellFormed

namespace VrmlWorld.SceneGraph

variable {graph loaded result : SceneGraph} {id other : NodeId} {inline : Inline}
  {location : Location}

/-! ### Inlines -/

theorem inline?_eq_some_iff :
    graph.inline? id = some inline ↔ ∃ node, graph.get? id = some node ∧ node.kind = .inline inline := by
  cases found : graph.get? id with
  | none => simp [inline?, kind?, found]
  | some node =>
    cases kind : node.kind <;> simp [inline?, kind?, found, kind]

theorem setInlineStatus?_eq_some {status : InlineStatus}
    (h : graph.setInlineStatus? id status = some result) :
    ∃ inline, graph.inline? id = some inline ∧
      result = graph.modify id fun node => { node with kind := .inline { inline with status } } := by
  obtain ⟨inline, found, rfl⟩ := Option.map_eq_some_iff.1 h
  exact ⟨inline, found, rfl⟩

theorem children_setInlineStatus? {status : InlineStatus}
    (h : graph.setInlineStatus? id status = some result) (other : NodeId) :
    result.children other = graph.children other := by
  obtain ⟨inline, -, rfl⟩ := setInlineStatus?_eq_some h
  by_cases same : other = id
  · cases found : graph.get? id <;> simp [children, same, found]
  · simp [children, same]

theorem stored_setInlineStatus? {status : InlineStatus}
    (h : graph.setInlineStatus? id status = some result) (other : NodeId) :
    result.Stored other ↔ graph.Stored other := by
  obtain ⟨inline, -, rfl⟩ := setInlineStatus?_eq_some h
  exact stored_modify graph id _ other

/-! ### The contents of a document -/

/-- The root of a document that is a group. -/
def frame? (loaded : SceneGraph) : Option NodeId :=
  loaded.root.filter fun root => (loaded.kind? root).any NodeKind.isGroup

/-- What a document shows in the place of an inline: the children of a root
    that is a group, or else the root. -/
def contents (loaded : SceneGraph) : List NodeId :=
  match loaded.root with
  | none => []
  | some root =>
      match loaded.get? root with
      | some node => if node.kind.isGroup then node.children else [root]
      | none => []

/-- A scene with a document spliced into one of its inlines. -/
structure Spliced (graph : SceneGraph) (id : NodeId) (inline : Inline) (loaded : SceneGraph)
    (location : Location) (result : SceneGraph) : Prop where
  root_eq : result.root = graph.root
  base_eq : result.base = graph.base
  size_eq : result.nodes.size = graph.nodes.size + loaded.nodes.size
  get?_other : ∀ other, other.index < graph.nodes.size → other ≠ id →
    result.get? other = graph.get? other
  get?_inline : result.get? id = (graph.get? id).map fun node =>
    { node with
      kind := .inline { inline with status := .loaded, location := some location }
      children := loaded.contents.map (·.shift graph.nodes.size) }
  get?_shift : ∀ own, result.get? (own.shift graph.nodes.size) =
    if loaded.frame? = some own then none
    else (loaded.get? own).map (·.shift graph.nodes.size)

/-- The scene that a document is dissolved into, before the inline is filled:
    the frame is gone, and the moved contents are at hand. -/
theorem dissolveRoot_adopt (graph : SceneGraph) {loaded : SceneGraph} {root : NodeId}
    (isRoot : loaded.root = some root) :
    (graph.adopt loaded).dissolveRoot (root.shift graph.nodes.size) =
      (if loaded.frame? = some root then
        (graph.adopt loaded).remove (root.shift graph.nodes.size) else graph.adopt loaded,
        loaded.contents.map (·.shift graph.nodes.size)) := by
  cases found : loaded.get? root with
  | none =>
    simp [dissolveRoot, get?_adopt_shift, found, frame?, contents, isRoot, kind?]
  | some node =>
    by_cases group : node.kind.isGroup
    · simp [dissolveRoot, get?_adopt_shift, found, frame?, contents, isRoot, kind?, group]
    · simp [dissolveRoot, get?_adopt_shift, found, frame?, contents, isRoot, kind?, group]

theorem shift_ne_of_lt (h : id.index < graph.nodes.size) (own : NodeId) :
    own.shift graph.nodes.size ≠ id := by
  rintro rfl
  simp only [NodeId.shift_index] at h
  omega

theorem splice?_eq_some (h : graph.splice? id loaded location = some result) :
    ∃ inline, graph.inline? id = some inline ∧
      graph.Spliced id inline loaded location result := by
  obtain ⟨inline, isInline, filled⟩ := Option.map_eq_some_iff.1 h
  obtain ⟨node, found, -⟩ := inline?_eq_some_iff.1 isInline
  have inside : id.index < graph.nodes.size := (stored_of_get? found).lt_size
  refine ⟨inline, isInline, ?_⟩
  cases isRoot : loaded.root with
  | none =>
    simp only [isRoot] at filled
    subst filled
    have noFrame : loaded.frame? = none := by simp [frame?, isRoot]
    refine ⟨rfl, rfl, by simp, ?_, ?_, ?_⟩
    · intro other lower different
      simp [different, get?_adopt_of_lt lower]
    · simp [get?_adopt_of_lt inside, contents, isRoot]
    · intro own
      simp [shift_ne_of_lt inside, get?_adopt_shift, noFrame]
  | some root =>
    simp only [isRoot, dissolveRoot_adopt graph isRoot] at filled
    subst filled
    by_cases framed : loaded.frame? = some root
    · refine ⟨by simp [framed], by simp [framed, modify, remove, adopt], by simp [framed], ?_, ?_, ?_⟩
      · intro other lower different
        simp [framed, different, (shift_ne_of_lt lower root).symm, get?_adopt_of_lt lower]
      · simp [framed, (shift_ne_of_lt inside root).symm, get?_adopt_of_lt inside]
      · intro own
        by_cases same : root = own
        · subst same
          simp [framed, shift_ne_of_lt inside]
        · simp [framed, shift_ne_of_lt inside, same, Ne.symm same, get?_adopt_shift]
    · have noFrame : loaded.frame? = none := by
        simpa [frame?, isRoot] using framed
      refine ⟨by simp [noFrame], by simp [noFrame, modify, adopt], by simp [noFrame], ?_, ?_, ?_⟩
      · intro other lower different
        simp [noFrame, different, get?_adopt_of_lt lower]
      · simp [noFrame, get?_adopt_of_lt inside]
      · intro own
        simp [noFrame, shift_ne_of_lt inside, get?_adopt_shift]

/-! ### Children behind a splice -/

/-- What a well-formed document shows is stored, and is not its frame. -/
theorem WellFormed.stored_of_mem_contents (wellFormed : loaded.WellFormed)
    (member : other ∈ loaded.contents) : loaded.Stored other ∧ loaded.frame? ≠ some other := by
  unfold contents at member
  split at member
  · simp at member
  · rename_i root isRoot
    split at member
    · rename_i node found
      by_cases group : node.kind.isGroup
      · have step : loaded.Child root other := by
          rw [child_iff_of_get? found]
          simpa [group] using member
        refine ⟨wellFormed.children_stored _ _ step, ?_⟩
        intro framed
        have same : root = other := by
          simpa [isRoot] using (Option.filter_eq_some_iff.1 framed).1
        subst same
        exact wellFormed.acyclic root (.single step)
      · obtain rfl : other = root := by simpa [group] using member
        exact ⟨stored_of_get? found, by simp [frame?, isRoot, kind?, found, group]⟩
    · simp at member

/-- A child behind a splice is a child as before, one of the contents below the
    inline, or a child of the document. -/
theorem Spliced.child_cases (spliced : graph.Spliced id inline loaded location result)
    {parent child : NodeId} (step : result.Child parent child) :
    (parent ≠ id ∧ graph.Child parent child) ∨
    (parent = id ∧ ∃ own ∈ loaded.contents, child = own.shift graph.nodes.size) ∨
    (∃ above below, parent = above.shift graph.nodes.size ∧
      child = below.shift graph.nodes.size ∧ loaded.Child above below) := by
  by_cases same : parent = id
  · subst same
    obtain ⟨node, found⟩ := stored_of_mem_children step
    rw [child_iff_of_get? found] at step
    rw [spliced.get?_inline] at found
    obtain ⟨old, -, rfl⟩ := Option.map_eq_some_iff.1 found
    obtain ⟨own, member, rfl⟩ := List.mem_map.1 step
    exact .inr (.inl ⟨rfl, own, member, rfl⟩)
  · obtain lower | ⟨above, rfl⟩ := lt_size_or_eq_shift graph.nodes.size parent
    · refine .inl ⟨same, ?_⟩
      simpa [Child, children, spliced.get?_other parent lower same] using step
    · right
      right
      obtain ⟨node, found⟩ := stored_of_mem_children step
      rw [child_iff_of_get? found] at step
      rw [spliced.get?_shift] at found
      split at found
      · cases found
      · obtain ⟨own, foundOwn, rfl⟩ := Option.map_eq_some_iff.1 found
        obtain ⟨below, member, rfl⟩ := List.mem_map.1 step
        exact ⟨above, below, rfl, rfl, (child_iff_of_get? foundOwn).2 member⟩

theorem Spliced.stored_of_stored (spliced : graph.Spliced id inline loaded location result)
    (stored : graph.Stored other) : result.Stored other := by
  obtain ⟨node, found⟩ := stored
  by_cases same : other = id
  · subst same
    exact ⟨_, by rw [spliced.get?_inline, found]; rfl⟩
  · exact ⟨node, by rw [spliced.get?_other other (stored_of_get? found).lt_size same, found]⟩

theorem Spliced.stored_shift (spliced : graph.Spliced id inline loaded location result)
    (stored : loaded.Stored other) (noFrame : loaded.frame? ≠ some other) :
    result.Stored (other.shift graph.nodes.size) := by
  obtain ⟨node, found⟩ := stored
  exact ⟨_, by rw [spliced.get?_shift, if_neg noFrame, found]; rfl⟩

/-! ### Well-formed scenes -/

theorem wellFormed_empty : empty.WellFormed where
  root_stored _ h := nomatch h
  root_top _ h := nomatch h
  children_stored parent child step := by simp [Child, children] at step
  acyclic := by
    have ranked : empty.Ranked NodeId.index := by
      intro parent child step
      simp [Child, children] at step
    exact ranked.acyclic

theorem WellFormed.setBase (wellFormed : graph.WellFormed) (base : Option Location) :
    { graph with base }.WellFormed :=
  ⟨wellFormed.root_stored, wellFormed.root_top, wellFormed.children_stored, wellFormed.acyclic⟩

theorem WellFormed.setInlineStatus? {status : InlineStatus} (wellFormed : graph.WellFormed)
    (h : graph.setInlineStatus? id status = some result) : result.WellFormed := by
  have sameRoot : result.root = graph.root := by
    obtain ⟨inline, -, rfl⟩ := setInlineStatus?_eq_some h
    rfl
  have sameChildren : result.Child = graph.Child := by
    funext parent child
    rw [Child, Child, children_setInlineStatus? h]
  refine ⟨?_, ?_, ?_, ?_⟩
  · intro root isRoot
    exact (stored_setInlineStatus? h root).2 (wellFormed.root_stored root (sameRoot ▸ isRoot))
  · intro root isRoot
    rw [sameChildren]
    exact wellFormed.root_top root (sameRoot ▸ isRoot)
  · intro parent child step
    rw [sameChildren] at step
    exact (stored_setInlineStatus? h child).2 (wellFormed.children_stored parent child step)
  · rw [Below, sameChildren]
    exact wellFormed.acyclic

/-- The rank of a scene with a document in it: the document keeps its own, and
    the scene stands above it. -/
noncomputable def splicedRank (graph loaded : SceneGraph) (id : NodeId) : Nat :=
  if id.index < graph.nodes.size then graph.descent id + loaded.nodes.size
  else loaded.descent ⟨id.index - graph.nodes.size⟩

theorem splicedRank_of_stored (loaded : SceneGraph) (stored : graph.Stored id) :
    graph.splicedRank loaded id = graph.descent id + loaded.nodes.size :=
  if_pos stored.lt_size

theorem splicedRank_shift (graph loaded : SceneGraph) (own : NodeId) :
    graph.splicedRank loaded (own.shift graph.nodes.size) = loaded.descent own := by
  simp [splicedRank]

theorem Spliced.ranked (spliced : graph.Spliced id inline loaded location result)
    (wellFormed : graph.WellFormed) (stored : graph.Stored id) (document : loaded.WellFormed) :
    result.Ranked (graph.splicedRank loaded) := by
  intro parent child step
  obtain ⟨-, old⟩ | ⟨rfl, own, member, rfl⟩ | ⟨above, below, rfl, rfl, new⟩ :=
    spliced.child_cases step
  · rw [splicedRank_of_stored loaded (wellFormed.children_stored _ _ old),
      splicedRank_of_stored loaded (stored_of_mem_children old)]
    exact Nat.add_lt_add_right (wellFormed.descent_lt old) _
  · rw [splicedRank_shift, splicedRank_of_stored loaded stored]
    have rank := document.descent_lt_size (document.stored_of_mem_contents member).1
    omega
  · rw [splicedRank_shift, splicedRank_shift]
    exact document.descent_lt new

theorem WellFormed.splice? (wellFormed : graph.WellFormed) (document : loaded.WellFormed)
    (h : graph.splice? id loaded location = some result) : result.WellFormed := by
  obtain ⟨inline, isInline, spliced⟩ := splice?_eq_some h
  obtain ⟨node, found, -⟩ := inline?_eq_some_iff.1 isInline
  have noFrame {child : NodeId} (step : ∃ parent, loaded.Child parent child) :
      loaded.frame? ≠ some child := by
    intro framed
    obtain ⟨parent, step⟩ := step
    exact document.root_top child (Option.filter_eq_some_iff.1 framed).1 parent step
  refine ⟨?_, ?_, ?_, (spliced.ranked wellFormed ⟨node, found⟩ document).acyclic⟩
  · intro root isRoot
    rw [spliced.root_eq] at isRoot
    exact spliced.stored_of_stored (wellFormed.root_stored root isRoot)
  · intro root isRoot parent step
    rw [spliced.root_eq] at isRoot
    have old := (wellFormed.root_stored root isRoot).lt_size
    obtain ⟨-, step⟩ | ⟨-, own, -, rfl⟩ | ⟨-, own, -, rfl, -⟩ := spliced.child_cases step
    · exact wellFormed.root_top root isRoot parent step
    · exact shift_ne_of_lt old own rfl
    · exact shift_ne_of_lt old own rfl
  · intro parent child step
    obtain ⟨-, old⟩ | ⟨-, own, member, rfl⟩ | ⟨above, below, -, rfl, new⟩ :=
      spliced.child_cases step
    · exact spliced.stored_of_stored (wellFormed.children_stored _ _ old)
    · have shown := document.stored_of_mem_contents member
      exact spliced.stored_shift shown.1 shown.2
    · exact spliced.stored_shift (document.children_stored _ _ new) (noFrame ⟨above, new⟩)

end VrmlWorld.SceneGraph
