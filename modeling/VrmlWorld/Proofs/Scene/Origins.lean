/-
  VrmlWorld/Proofs/Scene/Origins.lean
  ===================================
  **Which document each node of a scene was read from.**

  A scene does not record where its nodes came from: only an inline knows the
  place of the document that it shows. `Assembled` keeps the record beside the
  scene. As long as each node has its parent's document, or that of the inline
  that shows it (`Assembled.Sourced`), what a walk takes for the place of the
  document is right: it goes by the inlines on the way down, and restores the
  place on the way up (`Assembled.Sourced.base_of_mem_visits`).
-/
import VrmlWorld.Proofs.Document.AsRead
import VrmlWorld.Proofs.Render.Histories
import VrmlWorld.Proofs.Scene.Updates

namespace VrmlWorld

open VrmlWorld.Geometry

/-- Where the document came from that a node shows in its own place. -/
def NodeKind.shownPlace? : NodeKind → Option Location
  | .inline shown => shown.location
  | _ => none

open Document

namespace SceneGraph

/-- A text read as a scene gives one that has just been read, if only the empty
    one. -/
theorem asRead_sceneOf (text : String) : (sceneOf text).AsRead := by
  cases read : parse? text with
  | none => simpa [sceneOf, read] using asRead_empty
  | some answer =>
    obtain ⟨graph, stats⟩ := answer
    simpa [sceneOf, read] using asRead_of_parse? read

theorem AsRead.shownPlace? {graph : SceneGraph} (asRead : graph.AsRead) {id : NodeId} {node : Node}
    (found : graph.get? id = some node) : node.kind.shownPlace? = none := by
  cases kind : node.kind with
  | inline inline => exact (asRead.unasked id node found inline kind).2
  | _ => rfl

end SceneGraph

/-! ### Scenes put together from documents -/

/-- A scene with a record of the documents that its nodes were read from. -/
structure Assembled where
  graph : SceneGraph
  /-- The place of the document that a node was spliced in with; none for the
      nodes of the scene's own document. -/
  place : NodeId → Option Location

namespace Assembled

def ofText (text : String) (base : Option Location) : Assembled where
  graph := { sceneOf text with base }
  place _ := none

def origin (scene : Assembled) (id : NodeId) : Option Location :=
  scene.place id <|> scene.graph.base

/-- A change of the scene. The nodes that a splice brings in have identities
    beyond all earlier ones. -/
def updated (scene : Assembled) (update : SceneGraph.Update) : Assembled where
  graph := scene.graph.updated update
  place := match update with
    | .splice _ _ _ location => fun id =>
        if id.index < scene.graph.nodes.size then scene.place id else some location
    | _ => scene.place

/-- The root is of the scene's own document, and a child is of the document that
    its parent shows, or else of the document of its parent. -/
structure Sourced (scene : Assembled) : Prop where
  wellFormed : scene.graph.WellFormed
  root_own : ∀ root, scene.graph.root = some root → scene.place root = none
  child : ∀ parent node, scene.graph.get? parent = some node → ∀ child ∈ node.children,
    scene.place child = (node.kind.shownPlace? <|> scene.place parent)

variable {scene : Assembled}

theorem sourced_ofText (text : String) (base : Option Location) : (ofText text base).Sourced where
  wellFormed := (SceneGraph.wellFormed_sceneOf text).setBase base
  root_own _ _ := rfl
  child parent node found child _ := by
    rw [(SceneGraph.asRead_sceneOf text).shownPlace? found]
    rfl

namespace Sourced

open SceneGraph in
theorem setInlineStatus (sourced : scene.Sourced) (id : NodeId) (status : InlineStatus) :
    (scene.updated (.setInlineStatus id status)).Sourced := by
  refine ⟨sourced.wellFormed.updated (.setInlineStatus id status), fun root isRoot => ?_,
    fun parent node found => ?_⟩
  · exact sourced.root_own root ((root_updated scene.graph _).symm.trans isRoot)
  · -- neither the children of a node nor what it shows has changed
    have before : ∃ old, scene.graph.get? parent = some old ∧ old.children = node.children ∧
        old.kind.shownPlace? = node.kind.shownPlace? := by
      simp only [updated, SceneGraph.updated] at found
      cases set : scene.graph.setInlineStatus? id status with
      | none => exact ⟨node, by simpa [set] using found, rfl, rfl⟩
      | some result =>
        rw [set, Option.getD_some] at found
        obtain ⟨inline, isInline, rfl⟩ := setInlineStatus?_eq_some set
        obtain ⟨old, foundOld, kind⟩ := inline?_eq_some_iff.1 isInline
        rw [get?_modify] at found
        split at found
        · rename_i same
          rw [same, foundOld] at found
          obtain rfl := Option.some.inj found
          exact ⟨old, same ▸ foundOld, rfl, by rw [kind]; rfl⟩
        · exact ⟨node, found, rfl, rfl⟩
    obtain ⟨old, foundOld, sameChildren, sameShown⟩ := before
    intro child member
    rw [← sameShown]
    exact sourced.child parent old foundOld child (sameChildren ▸ member)

open SceneGraph in
theorem splice (sourced : scene.Sourced) (id : NodeId) (text : String) (base : Option Location)
    (location : Location) : (scene.updated (.splice id text base location)).Sourced := by
  have old {other : NodeId} (stored : scene.graph.Stored other) :
      (scene.updated (.splice id text base location)).place other = scene.place other :=
    if_pos stored.lt_size
  have new (own : NodeId) : (scene.updated (.splice id text base location)).place
      (own.shift scene.graph.nodes.size) = some location :=
    if_neg (by simp)
  refine ⟨sourced.wellFormed.updated (.splice id text base location), fun root isRoot => ?_,
    fun parent node found => ?_⟩
  · have isRoot := (root_updated scene.graph _).symm.trans isRoot
    rw [old (sourced.wellFormed.root_stored root isRoot), sourced.root_own root isRoot]
  · have asBefore (found : scene.graph.get? parent = some node) : ∀ child ∈ node.children,
        (scene.updated (.splice id text base location)).place child =
          (node.kind.shownPlace? <|>
            (scene.updated (.splice id text base location)).place parent) := by
      intro child member
      have stored := sourced.wellFormed.children_stored parent child
        ((child_iff_of_get? found).2 member)
      rw [old stored, old (stored_of_get? found), sourced.child parent node found child member]
    simp only [updated, SceneGraph.updated] at found
    cases spliced : scene.graph.splice? id { sceneOf text with base } location with
    | none => exact asBefore (by simpa [spliced] using found)
    | some result =>
      rw [spliced, Option.getD_some] at found
      obtain ⟨inline, -, spliced⟩ := splice?_eq_some spliced
      obtain lower | ⟨own, rfl⟩ := lt_size_or_eq_shift scene.graph.nodes.size parent
      · by_cases same : parent = id
        · -- the inline shows the document, and all its children are of it
          subst same
          rw [spliced.get?_inline] at found
          obtain ⟨before, -, rfl⟩ := Option.map_eq_some_iff.1 found
          intro child member
          obtain ⟨own, -, rfl⟩ := List.mem_map.1 member
          rw [new]
          rfl
        · exact asBefore (by rwa [spliced.get?_other parent lower same] at found)
      · -- nothing has been spliced into the document before
        rw [spliced.get?_shift] at found
        split at found
        · cases found
        · obtain ⟨before, foundOwn, rfl⟩ := Option.map_eq_some_iff.1 found
          intro child member
          obtain ⟨below, -, rfl⟩ := List.mem_map.1 member
          rw [new, new, Node.shift_kind, (asRead_sceneOf text).shownPlace? foundOwn]
          rfl

theorem updated (sourced : scene.Sourced) (update : SceneGraph.Update) :
    (scene.updated update).Sourced := by
  cases update with
  | setBase base =>
    exact ⟨sourced.wellFormed.setBase base, sourced.root_own, sourced.child⟩
  | setInlineStatus id status => exact sourced.setInlineStatus id status
  | splice id text base location => exact sourced.splice id text base location

end Sourced

end Assembled

/-! ### Places along a walk -/

@[simp] theorem Properties.base_leaving (properties : Properties) (kind : NodeKind)
    (inner : Properties) : (properties.leaving kind inner).base = properties.base := by
  rw [leaving]
  split <;> rfl

theorem Properties.base_of_entering? {properties inner : Properties} {kind : NodeKind}
    (entering : properties.entering? kind = some inner) :
    inner.base = (kind.shownPlace? <|> properties.base) := by
  cases kind with
  | inline inline =>
    obtain ⟨-, same⟩ := Option.ite_none_right_eq_some.1 entering
    cases same
    rfl
  | _ =>
    cases entering
    rfl

theorem Pass.base_meet {σ : Type} (pass : Pass σ) (host : Host σ) (view : View)
    (properties : Properties) (node : NodeId) (kind : NodeKind) :
    (pass.meet host view properties node kind).1.base = properties.base := by
  cases kind <;> rfl

namespace Occurrence

variable {σ : Type} {host : Host σ} {view : View}

/-- A walk is in the same document behind an occurrence as before it. -/
theorem base_visit (occurrence : Occurrence) (state : Properties × Pass σ) :
    (occurrence.visit host view state).1.base = state.1.base := by
  obtain ⟨properties, pass⟩ := state
  cases occurrence with
  | absent id => rfl
  | node id kind arity child =>
    rw [visit]
    split
    · split
      · rfl
      · simp
    · exact pass.base_meet host view properties id kind

end Occurrence

namespace Assembled

variable {σ : Type} {host : Host σ} {view : View} {scene : Assembled}

/-- What a walk through the scene takes for the place of the document is, at each
    node, the place of the document that the node was read from. -/
theorem Sourced.base_of_mem_visits (sourced : scene.Sourced) {depth : Nat} {id : NodeId}
    {state : Properties × Pass σ} (start : state.1.base = scene.origin id) {visit : Visit σ}
    (member : visit ∈ (scene.graph.unfold depth id).visits host view state) :
    visit.properties.base = scene.origin visit.node := by
  induction depth generalizing id state with
  | zero => simp [SceneGraph.unfold, Occurrence.visits] at member
  | succ depth ih =>
    cases found : scene.graph.get? id with
    | none => simp [SceneGraph.unfold, found, Occurrence.visits] at member
    | some node =>
      cases group : node.kind.isGroup with
      | false =>
        rw [Occurrence.visits_unfold_single found group] at member
        obtain rfl := List.mem_singleton.1 member
        exact start
      | true =>
        cases entering : state.1.entering? node.kind with
        | none =>
          obtain ⟨properties, pass⟩ := state
          simp only [SceneGraph.unfold, found, Occurrence.visits, group, entering, if_true] at member
          obtain rfl := List.mem_singleton.1 member
          exact start
        | some inner =>
          rw [Occurrence.visits_unfold_group found group state entering rfl] at member
          obtain rfl | below := List.mem_cons.1 member
          · exact start
          · have within : inner.base = (node.kind.shownPlace? <|> scene.origin id) := by
              rw [Properties.base_of_entering? entering, start]
            obtain ⟨child, among, reached, stays, visited⟩ := mem_trail_of_kept
              (P := fun state => state.1.base = (node.kind.shownPlace? <|> scene.origin id))
              (fun child reached stays => (Occurrence.base_visit _ reached).trans stays) within below
            have isChild := sourced.child id node found child ((active_sublist _ _ _ _).subset among)
            refine ih ?_ visited
            rw [stays, origin, origin, isChild]
            cases node.kind.shownPlace? <;> rfl

/-- The walk that makes a frame starts at the root, in the scene's own document. -/
theorem Sourced.base_of_mem_renderer_visits (sourced : scene.Sourced) (renderer : Renderer)
    (host : Host σ) (state : σ) (camera : Camera) (aspect : Float32) {visit : Visit σ}
    (member : visit ∈ renderer.visits host state scene.graph camera aspect) :
    visit.properties.base = scene.origin visit.node := by
  rw [Renderer.visits, SceneGraph.unfolding] at member
  cases isRoot : scene.graph.root with
  | none => simp [isRoot] at member
  | some root =>
    simp only [isRoot, Option.map_some, Option.elim_some] at member
    refine sourced.base_of_mem_visits ?_ member
    rw [origin, sourced.root_own root isRoot]
    rfl

end Assembled

end VrmlWorld
