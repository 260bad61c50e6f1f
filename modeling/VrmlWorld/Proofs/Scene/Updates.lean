/-
  VrmlWorld/Proofs/Scene/Updates.lean
  ===================================
  **Scenes stay well formed, whatever is done to them.**

  A scene is changed by moving its base, by recording how far an inline has
  come, and by splicing a document into an inline. Each change keeps the scene
  well formed, and in a well-formed scene every walk ends.
-/
import VrmlWorld.Proofs.Document.Storing
import VrmlWorld.Proofs.Scene.Splice
import VrmlWorld.Proofs.Viewer.Walk

namespace VrmlWorld.SceneGraph

open Document VrmlWorld.Geometry

variable {graph : SceneGraph}

/-- A text read as a scene gives a well-formed one, if only the empty one. -/
theorem wellFormed_sceneOf (text : String) : (sceneOf text).WellFormed := by
  cases read : parse? text with
  | none => simpa [sceneOf, read] using wellFormed_empty
  | some answer =>
    obtain ⟨graph, stats⟩ := answer
    simpa [sceneOf, read] using (wellFormed_of_parse? read).1

/-! ### Sequences of changes -/

/-- A change of a scene. What is spliced is the scene that a text describes,
    which is empty when the text does not begin with a node. -/
inductive Update where
  | setBase (base : Option Location)
  | setInlineStatus (id : NodeId) (status : InlineStatus)
  | splice (id : NodeId) (text : String) (base : Option Location) (location : Location)

/-- Makes a change; one that is refused leaves the scene as it is. -/
def updated (graph : SceneGraph) : Update → SceneGraph
  | .setBase base => { graph with base }
  | .setInlineStatus id status => (graph.setInlineStatus? id status).getD graph
  | .splice id text base location =>
      (graph.splice? id { sceneOf text with base } location).getD graph

/-- What a change comes to. -/
inductive Change (graph : SceneGraph) : Update → SceneGraph → Prop
  | refused (update : Update) : Change graph update graph
  | moved (base : Option Location) : Change graph (.setBase base) { graph with base }
  | noted {id : NodeId} {status : InlineStatus} {result : SceneGraph}
      (set : graph.setInlineStatus? id status = some result) :
      Change graph (.setInlineStatus id status) result
  | filled {id : NodeId} {text : String} {base : Option Location} {location : Location}
      {result : SceneGraph}
      (spliced : graph.splice? id { sceneOf text with base } location = some result) :
      Change graph (.splice id text base location) result

theorem change_updated (graph : SceneGraph) (update : Update) :
    graph.Change update (graph.updated update) := by
  cases update with
  | setBase base => exact .moved base
  | setInlineStatus id status =>
    rw [updated]
    cases set : graph.setInlineStatus? id status with
    | none => exact .refused _
    | some result => exact .noted set
  | splice id text base location =>
    rw [updated]
    cases spliced : graph.splice? id { sceneOf text with base } location with
    | none => exact .refused _
    | some result => exact .filled spliced

theorem WellFormed.updated (wellFormed : graph.WellFormed) (update : Update) :
    (graph.updated update).WellFormed := by
  have change := graph.change_updated update
  generalize graph.updated update = result at change ⊢
  cases change with
  | refused => exact wellFormed
  | moved base => exact wellFormed.setBase base
  | noted set => exact wellFormed.setInlineStatus? set
  | filled spliced => exact wellFormed.splice? ((wellFormed_sceneOf _).setBase _) spliced

theorem root_updated (graph : SceneGraph) (update : Update) :
    (graph.updated update).root = graph.root := by
  have change := graph.change_updated update
  generalize graph.updated update = result at change ⊢
  cases change with
  | refused => rfl
  | moved base => rfl
  | noted set =>
    obtain ⟨inline, -, same⟩ := setInlineStatus?_eq_some set
    rw [same, root_modify]
  | filled spliced =>
    obtain ⟨inline, -, spliced⟩ := splice?_eq_some spliced
    exact spliced.root_eq

theorem wellFormed_foldl_updated (wellFormed : graph.WellFormed) (updates : List Update) :
    (updates.foldl updated graph).WellFormed ∧
      (updates.foldl updated graph).root = graph.root := by
  induction updates generalizing graph with
  | nil => exact ⟨wellFormed, rfl⟩
  | cons update updates ih =>
    obtain ⟨after, sameRoot⟩ := ih (wellFormed.updated update)
    exact ⟨after, sameRoot.trans (root_updated graph update)⟩

/-- Every scene that is read, after any changes, is well formed and has a root;
    and from the root each of the three walks by child identities (drawing,
    placing, aiming) ends for every viewer, in the state that the recursion on
    the unfolding gives. -/
theorem wellFormed_and_walks_end_of_updates {text : String} {stats : Stats}
    (read : parse? text = some (graph, stats)) (updates : List Update) :
    let scene := updates.foldl updated graph
    scene.WellFormed ∧
    ∃ root tree, scene.root = some root ∧ scene.unfolding = some tree ∧
      (∀ (σ : Type) (host : Host σ) (view : View) (state : Properties × Pass σ),
        (Walk.drawing host view).Ends scene root state (tree.visit host view state)) ∧
      (∀ (viewer : Vec3) (matrix : Mat4),
        (Walk.placing viewer).Ends scene root (matrix, []) (tree.placements viewer matrix)) ∧
      (∀ (viewer : Vec3) (link : Option LinkFrame) (matrix : Mat4),
        (Walk.aiming viewer).Ends scene root (link, matrix, [])
          (link, tree.targets viewer link matrix)) := by
  intro scene
  obtain ⟨readWell, root, isRoot⟩ := wellFormed_of_parse? read
  obtain ⟨wellFormed, sameRoot⟩ := wellFormed_foldl_updated readWell updates
  obtain ⟨tree, unfolding, unfolds⟩ := wellFormed.unfolding_complete (sameRoot.trans isRoot)
  refine ⟨wellFormed, root, tree, sameRoot.trans isRoot, unfolding, ?_, ?_, ?_⟩
  · intro σ host view state
    exact tree.drawing_ends host view unfolds state
  · intro viewer matrix
    simpa using tree.placing_ends viewer unfolds matrix []
  · intro viewer link matrix
    simpa using tree.aiming_ends viewer unfolds link matrix []

theorem parse?_group_inline : parse? "Group{WWWInline{}}" =
    some ({ (empty.insert { kind := .inline {} }).insert
      { kind := .group .group, children := [⟨0⟩] } with root := some ⟨1⟩ }, ⟨2, 0, 0⟩) := by
  decide +kernel

theorem wellFormed_after_group_inline_is_filled :
    parse? "Group{WWWInline{}}" =
      some ({ (empty.insert { kind := .inline {} }).insert
        { kind := .group .group, children := [⟨0⟩] } with root := some ⟨1⟩ }, ⟨2, 0, 0⟩) ∧
    ([Update.setInlineStatus ⟨0⟩ .loading,
      .splice ⟨0⟩ "Separator { USE Loop }" none (.path "part.wrl")].foldl updated
        { (empty.insert { kind := .inline {} }).insert
          { kind := .group .group, children := [⟨0⟩] } with root := some ⟨1⟩ }).WellFormed :=
  ⟨parse?_group_inline, (wellFormed_and_walks_end_of_updates parse?_group_inline _).1⟩

end VrmlWorld.SceneGraph
