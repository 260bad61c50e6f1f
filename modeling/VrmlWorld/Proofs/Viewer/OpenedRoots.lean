/-
  VrmlWorld/Proofs/Viewer/OpenedRoots.lean
  ========================================
  **What is left of the root of a document in the place of an inline.**

  A root that is a group is only a frame for its children, whatever kind of group
  it is: in the place of the inline all its children are shown, in their order.
  So a document is found there with a plain group for its root
  (`Spliced.exists_filled`), and the choice of a switch or of a level of detail,
  a link, or the fetch of an inline, is lost with a root that has it.

  Three walks are compared, each for one viewer and one matrix at the inline: what
  they find there is what they find in the document, under the new names.
-/
import VrmlWorld.Proofs.Document.Childless
import VrmlWorld.Proofs.Scene.Updates
import VrmlWorld.Proofs.Viewer.Renaming

namespace VrmlWorld

open Document VrmlWorld.Geometry

namespace Occurrence

/-! ### Finding the same under other names -/

/-- The nodes of a document are placed in the place of an inline as by themselves,
    and what stands behind the inline is placed as before it. -/
def PlacesAs (f : NodeId → NodeId) (inPlace own : Occurrence) (viewer : Vec3) (matrix : Mat4) :
    Prop :=
  inPlace.placements viewer matrix = (matrix, (own.placements viewer matrix).2.map (·.rename f))

/-- The targets are those of the document, each with the innermost link that it has
    there or else the one around the inline. -/
def AimsAs (f : NodeId → NodeId) (inPlace own : Occurrence) (viewer : Vec3) (matrix : Mat4) :
    Prop :=
  ∀ link, inPlace.targets viewer link matrix =
    (matrix, (own.targets viewer none matrix).2.map fun target => (target.rename f).within link)

/-- Drawing lists the same inlines with the same references from the same place,
    whatever each of the two frames has listed before. -/
def ListsAs (f : NodeId → NodeId) (location : Location) (inPlace own : Occurrence) (viewer : Vec3)
    (matrix : Mat4) : Prop :=
  ∀ {σ : Type} (host : Host σ) (view : View) (properties : Properties) (pass pass' : Pass σ),
    view.viewer = viewer → properties.transform = matrix →
    ∃ asked : List Ask,
      (own.visit host view ({ properties with base := some location }, pass)).2.frame.AsksAlike
        (asked.foldl Frame.ask pass.frame) ∧
      (inPlace.visit host view (properties, pass')).2.frame.AsksAlike
        ((asked.map (·.rename f)).foldl Frame.ask pass'.frame)

/-! ### Opened roots -/

/-- The same tree with a plain group for a root that is a group. -/
def opened : Occurrence → Occurrence
  | .absent id => .absent id
  | .node id kind arity child =>
      .node id (if kind.isGroup then .group .group else kind) arity child

section Filled

variable {f : NodeId → NodeId} {id root : NodeId} {inline : Inline} {location : Location}
  {kind : NodeKind} {arity : Nat} {child : Fin arity → Occurrence} {viewer : Vec3} {matrix : Mat4}

/-- The tree of an inline with the children of a document under other names. -/
def filled (f : NodeId → NodeId) (id : NodeId) (inline : Inline) (location : Location) {arity : Nat}
    (child : Fin arity → Occurrence) : Occurrence :=
  .node id (.inline { inline with status := .loaded, location := some location }) arity
    fun position => (child position).rename f

/-- The tree of a plain group. -/
def plain (root : NodeId) {arity : Nat} (child : Fin arity → Occurrence) : Occurrence :=
  .node root (.group .group) arity child

theorem opened_node (group : kind.isGroup = true) :
    (node root kind arity child).opened = plain root child := by
  simp [opened, plain, group]

theorem placesAs_filled :
    (filled f id inline location child).PlacesAs f (plain root child) viewer matrix := by
  rw [PlacesAs, filled, plain, placements_group viewer rfl, placements_group viewer rfl, shown,
    active, if_pos rfl]
  exact congrArg (matrix, ·) (trail_map_out _ (fun position reached => by rw [placements_rename])
    (fun position reached => by rw [placements_rename]) _ matrix)

theorem aimsAs_filled :
    (filled f id inline location child).AimsAs f (plain root child) viewer matrix := by
  intro link
  have renamed : ∀ (position : Fin arity) (reached : Mat4),
      ((child position).rename f).targets viewer link reached =
        (((child position).targets viewer none reached).1,
          ((child position).targets viewer none reached).2.map fun target =>
            (target.rename f).within link) := by
    intro position reached
    have alone := targets_rename f viewer (child position) none reached
    rw [Option.map_none] at alone
    rw [targets_within, alone, List.map_map]
    rfl
  rw [filled, plain, targets_group viewer rfl, targets_group viewer rfl, shown, active, if_pos rfl]
  exact congrArg (matrix, ·) (trail_map_out _
    (fun position reached => congrArg Prod.fst (renamed position reached))
    (fun position reached => congrArg Prod.snd (renamed position reached)) _ matrix)

theorem asks_filled (base : Option Location) :
    (filled f id inline location child).asks viewer base matrix =
      ((plain root child).asks viewer (some location) matrix).map (·.rename f) := by
  simp only [filled, plain, asks, asked, NodeKind.isGroup, if_true, reduceCtorEq, if_false,
    List.nil_append, active]
  exact trail_map_out _ (fun position reached => by rw [placements_rename])
    (fun position reached => asks_rename f viewer (child position) (some location) reached) _ matrix

/-- Two trees whose walks come to the same inlines list them alike. -/
theorem listsAs_of_asks {inPlace own : Occurrence}
    (asks : ∀ base, inPlace.asks viewer base matrix =
      (own.asks viewer (some location) matrix).map (·.rename f)) :
    inPlace.ListsAs f location own viewer matrix := by
  rintro σ host view properties pass pass' rfl rfl
  refine ⟨own.asks view.viewer (some location) properties.transform, ?_, ?_⟩
  · exact own.asks_visit ({ properties with base := some location }, pass)
  · rw [← asks properties.base]
    exact inPlace.asks_visit (properties, pass')

/-! ### Roots that show all their children -/

section AllShown

variable (all : shown kind arity matrix viewer = List.finRange arity)
include all

theorem placements_of_all_shown (group : kind.isGroup = true) :
    (node root kind arity child).placements viewer matrix =
      (plain root child).placements viewer matrix := by
  rw [plain, placements_group viewer group, placements_group viewer rfl, all]
  rfl

theorem targets_of_all_shown (group : kind.isGroup = true) (noLink : ∀ anchor, kind ≠ .anchor anchor) :
    (node root kind arity child).targets viewer none matrix =
      (plain root child).targets viewer none matrix := by
  have inside : LinkFrame.inside none root kind matrix = none := by
    cases kind with
    | anchor anchor => exact absurd rfl (noLink anchor)
    | _ => rfl
  rw [plain, targets_group viewer group, targets_group viewer rfl, all, inside]
  rfl

theorem asks_of_all_shown (group : kind.isGroup = true) (noInline : ∀ own, kind ≠ .inline own)
    (base : Option Location) :
    (node root kind arity child).asks viewer base matrix =
      (plain root child).asks viewer base matrix := by
  have silent : asked root kind base = [] := by
    cases kind with
    | inline own => exact absurd rfl (noInline own)
    | _ => rfl
  have place : kind.shownPlace? = none := by
    cases kind with
    | inline own => exact absurd rfl (noInline own)
    | _ => rfl
  simp only [plain, asks, group, all, silent, place]
  rfl

end AllShown

end Filled

end Occurrence

/-- A node that shows all its children shows every position of its list. -/
theorem shown_of_active_eq {node : Node} {matrix : Mat4} {viewer : Vec3}
    (all : active node.kind node.children matrix viewer = node.children) :
    Occurrence.shown node.kind node.children.toArray.size matrix viewer =
      List.finRange node.children.toArray.size := by
  refine (active_sublist node.kind _ matrix viewer).eq_of_length ?_
  have counted := congrArg List.length (active_eq_map_shown node matrix viewer)
  rw [all, List.length_map] at counted
  rw [List.length_finRange]
  exact counted.symm.trans List.size_toArray.symm

namespace SceneGraph

variable {graph loaded result : SceneGraph} {id root : NodeId} {inline : Inline}
  {location : Location} {top : Node}

/-- The tree of a document whose root is a group, and that of the inline with the
    same children under other names. -/
theorem Spliced.exists_filled (spliced : graph.Spliced id inline loaded location result)
    (document : loaded.WellFormed) (stored : graph.Stored id) (isRoot : loaded.root = some root)
    (found : loaded.get? root = some top) (group : top.kind.isGroup = true) :
    ∃ child : Fin top.children.toArray.size → Occurrence,
      loaded.Unfolds root (.node root top.kind top.children.toArray.size child) ∧
      result.Unfolds id (.filled (·.shift graph.nodes.size) id inline location child) := by
  obtain ⟨own, -, complete⟩ := document.unfolding_complete isRoot
  obtain @⟨_, node, child, found', below⟩ := complete
  obtain rfl : node = top := Option.some.inj (found'.symm.trans found)
  obtain ⟨old, inPlace⟩ := stored
  have contents : loaded.contents = node.children := by simp [contents, isRoot, found, group]
  refine ⟨child, .node found below, ?_⟩
  refine Unfolds.of_children _ (spliced.get?_filled inPlace) (by simp [contents]) ?_
  intro index within within'
  have member : node.children.toArray[index] ∈ loaded.contents := by
    rw [contents]
    exact List.mem_toArray.1 (Array.getElem_mem _)
  have unfolds := (spliced.embeds document).unfolds (document.stored_of_mem_contents member)
    (below index within')
  simpa [contents] using unfolds

/-- A document whose root is a group, of whatever kind, in the place of an inline:
    its nodes are placed there, aimed at and listed as in the document with a plain
    group for its root.

    That is as in the document itself where the root shows all its children, but
    for two things. What has the root for its innermost link has the one around
    the inline instead, and an inline at the root, which has no children, is not
    listed. -/
theorem splice?_opens_root {graph loaded : SceneGraph} {id root : NodeId} {inline : Inline}
    {text : String} {stats : Stats} {top : Node} (isInline : graph.inline? id = some inline)
    (read : parse? text = some (loaded, stats)) (isRoot : loaded.root = some root)
    (found : loaded.get? root = some top) (group : top.kind.isGroup = true)
    (base : Option Location) (location : Location) :
    ∃ result inPlace own,
      graph.splice? id { loaded with base } location = some result ∧
      result.Unfolds id inPlace ∧ loaded.Unfolds root own ∧
      let f := NodeId.shift graph.nodes.size
      (∀ viewer matrix,
        inPlace.PlacesAs f own.opened viewer matrix ∧ inPlace.AimsAs f own.opened viewer matrix ∧
          inPlace.ListsAs f location own.opened viewer matrix) ∧
      (∀ viewer matrix, active top.kind top.children matrix viewer = top.children →
        inPlace.PlacesAs f own viewer matrix ∧
        ((∀ anchor, top.kind ≠ .anchor anchor) → inPlace.AimsAs f own viewer matrix) ∧
        ((∀ shut, top.kind ≠ .inline shut) → inPlace.ListsAs f location own viewer matrix)) ∧
      (∀ shut, top.kind = .inline shut → shut.status = .pending ∧ top.children = []) := by
  let document : SceneGraph := { loaded with base }
  have asRead := asRead_of_parse? read
  have wellFormed : document.WellFormed := asRead.wellFormed.setBase base
  obtain ⟨node, inPlace, -⟩ := inline?_eq_some_iff.1 isInline
  obtain ⟨result, splice⟩ : ∃ result, graph.splice? id document location = some result := by
    rw [splice?, isInline]
    exact ⟨_, rfl⟩
  obtain ⟨inline, -, spliced⟩ := splice?_eq_some splice
  obtain ⟨child, unfolds, unfolds'⟩ :=
    spliced.exists_filled wellFormed ⟨node, inPlace⟩ isRoot found group
  refine ⟨result, _, _, splice, unfolds', unfolds.congr loaded fun _ => rfl, ?_⟩
  dsimp only
  rw [Occurrence.opened_node group]
  refine ⟨fun viewer matrix => ⟨?_, ?_, ?_⟩, fun viewer matrix all => ⟨?_, ?_, ?_⟩, ?_⟩
  · exact Occurrence.placesAs_filled
  · exact Occurrence.aimsAs_filled
  · exact Occurrence.listsAs_of_asks Occurrence.asks_filled
  · rw [Occurrence.PlacesAs, Occurrence.placements_of_all_shown (shown_of_active_eq all) group]
    exact Occurrence.placesAs_filled
  · intro noLink link
    rw [Occurrence.targets_of_all_shown (shown_of_active_eq all) group noLink]
    exact Occurrence.aimsAs_filled link
  · intro noInline
    refine Occurrence.listsAs_of_asks fun outer => ?_
    rw [Occurrence.asks_of_all_shown (shown_of_active_eq all) group noInline]
    exact Occurrence.asks_filled outer
  · intro shut isShut
    exact ⟨(asRead.unasked root top found shut isShut).1,
      childless_root_of_parse? read isRoot found isShut⟩

/-! ### A switch at the root -/

/-- The scene of `Switch { Cube {} }`, which shows nothing. -/
def switchedOff : SceneGraph :=
  { (empty.insert { kind := .cube {} }).insert { kind := .switch {}, children := [⟨0⟩] }
    with root := some ⟨1⟩ }

theorem parse?_switchedOff : parse? "Switch{Cube{}}" = some (switchedOff, ⟨2, 0, 0⟩) := by
  decide +kernel

/-- The cube of a switch that shows nothing, in the place of an inline. -/
theorem exists_filled_switchedOff :
    ∃ result child, (empty.insert { kind := .inline {} }).splice? ⟨0⟩ switchedOff (.path "a") =
        some result ∧
      switchedOff.Unfolds ⟨1⟩ (.node ⟨1⟩ (.switch {}) 1 child) ∧
      result.Unfolds ⟨0⟩ (.filled (·.shift 1) ⟨0⟩ {} (.path "a") child) ∧
      child = fun _ => switchedOff.unfold 2 ⟨0⟩ := by
  have wellFormed := (wellFormed_of_parse? parse?_switchedOff).1
  have isRoot : switchedOff.root = some ⟨1⟩ := rfl
  obtain ⟨result, splice⟩ : ∃ result, (empty.insert { kind := .inline {} }).splice? ⟨0⟩
      switchedOff (.path "a") = some result := ⟨_, rfl⟩
  obtain ⟨inline, isInline, spliced⟩ := splice?_eq_some splice
  cases isInline
  obtain ⟨child, unfolds, unfolds'⟩ :=
    spliced.exists_filled wellFormed ⟨_, rfl⟩ isRoot rfl rfl
  obtain ⟨tree, isTree, complete⟩ := wellFormed.unfolding_complete isRoot
  cases isTree
  have same : Occurrence.node ⟨1⟩ (.switch {}) 1 child =
      .node ⟨1⟩ (.switch {}) 1 fun _ => switchedOff.unfold 2 ⟨0⟩ := by
    refine (unfolds.unique complete).trans (congrArg (Occurrence.node _ _ 1) ?_)
    funext ⟨index, within⟩
    obtain rfl : index = 0 := Nat.lt_one_iff.1 within
    rfl
  obtain ⟨-, -, -, same⟩ := Occurrence.node.inj same
  exact ⟨result, child, splice, unfolds, unfolds', eq_of_heq same⟩

/-- The cube, which the document does not show, is shown in the place of the inline. -/
theorem shows_cube_of_switchedOff :
    let graph := empty.insert { kind := .inline {} }
    parse? "Switch{Cube{}}" = some (switchedOff, ⟨2, 0, 0⟩) ∧
    graph.inline? ⟨0⟩ = some {} ∧ switchedOff.root = some ⟨1⟩ ∧
    switchedOff.kind? ⟨1⟩ = some (.switch {}) ∧
    ∃ result inPlace own,
      graph.splice? ⟨0⟩ switchedOff (.path "a") = some result ∧
      result.Unfolds ⟨0⟩ inPlace ∧ switchedOff.Unfolds ⟨1⟩ own ∧
      (own.placements .zero .identity).2 = [] ∧
      (inPlace.placements .zero .identity).2 = [⟨⟨1⟩, .cube {}, .identity⟩] ∧
      ∀ f, ¬ inPlace.PlacesAs f own .zero .identity := by
  intro graph
  obtain ⟨result, child, splice, unfolds, unfolds', rfl⟩ := exists_filled_switchedOff
  have hidden : ((Occurrence.node ⟨1⟩ (.switch {}) 1
      fun _ => switchedOff.unfold 2 ⟨0⟩).placements .zero .identity).2 = [] := rfl
  have shown : ((Occurrence.filled (·.shift 1) ⟨0⟩ {} (.path "a")
      fun _ : Fin 1 => switchedOff.unfold 2 ⟨0⟩).placements .zero .identity).2 =
        [⟨⟨1⟩, .cube {}, .identity⟩] := rfl
  refine ⟨parse?_switchedOff, rfl, rfl, rfl, result, _, _, splice, unfolds', unfolds, hidden, shown,
    ?_⟩
  intro f same
  have none := congrArg Prod.snd same
  rw [shown, hidden] at none
  cases none

/-- All that the switch has to choose from is placed where the inline is. -/
theorem places_choices_of_switchedOff :
    let graph := empty.insert { kind := .inline {} }
    graph.inline? ⟨0⟩ = some {} ∧ parse? "Switch{Cube{}}" = some (switchedOff, ⟨2, 0, 0⟩) ∧
    switchedOff.root = some ⟨1⟩ ∧
    switchedOff.get? ⟨1⟩ = some { kind := .switch {}, children := [⟨0⟩] } ∧
    (NodeKind.switch {}).isGroup = true ∧
    ∃ result inPlace,
      graph.splice? ⟨0⟩ switchedOff (.path "a") = some result ∧ result.Unfolds ⟨0⟩ inPlace ∧
      ∀ viewer matrix, inPlace.placements viewer matrix = (matrix, [⟨⟨1⟩, .cube {}, matrix⟩]) := by
  intro graph
  have isInline : graph.inline? ⟨0⟩ = some {} := rfl
  have isRoot : switchedOff.root = some ⟨1⟩ := rfl
  have found : switchedOff.get? ⟨1⟩ = some { kind := .switch {}, children := [⟨0⟩] } := rfl
  obtain ⟨result, inPlace, own, splice, unfolds, unfoldsOwn, opened, -⟩ :=
    splice?_opens_root isInline parse?_switchedOff isRoot found rfl none (.path "a")
  refine ⟨isInline, parse?_switchedOff, isRoot, found, rfl, result, inPlace, splice, unfolds, ?_⟩
  intro viewer matrix
  obtain ⟨tree, isTree, complete⟩ :=
    (wellFormed_of_parse? parse?_switchedOff).1.unfolding_complete isRoot
  cases isTree
  rw [unfoldsOwn.unique complete] at opened
  exact (opened viewer matrix).1.trans rfl

end SceneGraph

end VrmlWorld
