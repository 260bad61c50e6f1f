/-
  VrmlWorld/Proofs/Render/References.lean
  =======================================
  **Where the references of a scene start from.**

  The reference of an inline is written in a document, and is resolved against
  the place of that document. A walk through a scene of many documents goes by
  the right place at each node, whatever way it came, so a frame asks for what
  the document of the inline means (`Frame.Asks`).

  The record of the documents (`Assembled.place`) is itself right: nothing is
  taken back, and what a splice brings in is of the document that is spliced.
-/
import VrmlWorld.Proofs.Render.Requests
import VrmlWorld.Proofs.Scene.Origins

namespace VrmlWorld

open Document VrmlWorld.Geometry

/-! ### The record of the documents -/

namespace SceneGraph

theorem size_nodes_le_updated (graph : SceneGraph) (update : Update) :
    graph.nodes.size ≤ (graph.updated update).nodes.size := by
  have change := graph.change_updated update
  generalize graph.updated update = result at change ⊢
  cases change with
  | refused | moved => exact le_rfl
  | noted set =>
    obtain ⟨inline, -, same⟩ := setInlineStatus?_eq_some set
    rw [same, size_nodes_modify]
  | filled spliced =>
    obtain ⟨inline, -, spliced⟩ := splice?_eq_some spliced
    rw [spliced.size_eq]
    exact Nat.le_add_right ..

/-- A scene stays where it is unless it is moved. -/
theorem base_updated (graph : SceneGraph) {update : Update}
    (stays : ∀ base, update ≠ .setBase base) : (graph.updated update).base = graph.base := by
  have change := graph.change_updated update
  generalize graph.updated update = result at change ⊢
  cases change with
  | refused => rfl
  | moved base => exact absurd rfl (stays base)
  | noted set =>
    obtain ⟨inline, -, same⟩ := setInlineStatus?_eq_some set
    rw [same, modify]
  | filled spliced =>
    obtain ⟨inline, -, spliced⟩ := splice?_eq_some spliced
    exact spliced.base_eq

end SceneGraph

namespace Assembled

theorem base_foldl_updated (scene : Assembled) {updates : List SceneGraph.Update}
    (stays : ∀ update ∈ updates, ∀ base, update ≠ .setBase base) :
    (updates.foldl updated scene).graph.base = scene.graph.base := by
  induction updates generalizing scene with
  | nil => rfl
  | cons update updates ih =>
    obtain ⟨first, others⟩ := List.forall_mem_cons.1 stays
    exact (ih (scene.updated update) others).trans (scene.graph.base_updated first)

theorem Sourced.foldl_updated {scene : Assembled} (sourced : scene.Sourced)
    (updates : List SceneGraph.Update) : (updates.foldl Assembled.updated scene).Sourced := by
  induction updates generalizing scene with
  | nil => exact sourced
  | cons update updates ih => exact ih (sourced.updated update)

theorem place_updated (scene : Assembled) (update : SceneGraph.Update) {id : NodeId}
    (given : id.index < scene.graph.nodes.size) :
    (scene.updated update).place id = scene.place id := by
  cases update with
  | splice inline text base location => exact if_pos given
  | _ => rfl

/-- What is recorded for an identity that has been given out is never changed. -/
theorem place_foldl_updated (scene : Assembled) (updates : List SceneGraph.Update) {id : NodeId}
    (given : id.index < scene.graph.nodes.size) :
    (updates.foldl updated scene).place id = scene.place id := by
  induction updates generalizing scene with
  | nil => rfl
  | cons update updates ih =>
    have kept := given.trans_le (scene.graph.size_nodes_le_updated update)
    exact (ih (scene.updated update) kept).trans (scene.place_updated update given)

/-- The nodes of the scene's own document are taken to be where the scene is. -/
theorem origin_of_own {text : String} {base : Option Location} {id : NodeId}
    (stored : (ofText text base).graph.Stored id) (updates : List SceneGraph.Update) :
    (updates.foldl updated (ofText text base)).origin id =
      (updates.foldl updated (ofText text base)).graph.base := by
  rw [origin, place_foldl_updated _ updates stored.lt_size]
  rfl

/-- The nodes of a document that has been spliced in are taken to be where the
    document is, whatever is done to the scene later. -/
theorem origin_of_spliced (scene : Assembled) {id : NodeId} {inline : Inline}
    (isInline : scene.graph.inline? id = some inline) (text : String) (base : Option Location)
    (location : Location) {own : NodeId} (stored : (sceneOf text).Stored own)
    (later : List SceneGraph.Update) :
    (later.foldl updated (scene.updated (.splice id text base location))).origin
      (own.shift scene.graph.nodes.size) = some location := by
  obtain ⟨result, spliced⟩ :
      ∃ result, scene.graph.splice? id { sceneOf text with base } location = some result := by
    simp [SceneGraph.splice?, isInline]
  obtain ⟨_, -, spliced'⟩ := SceneGraph.splice?_eq_some spliced
  have given : (own.shift scene.graph.nodes.size).index <
      (scene.updated (.splice id text base location)).graph.nodes.size := by
    have within := stored.lt_size
    simpa [updated, SceneGraph.updated, spliced, spliced'.size_eq] using within
  have recorded : (scene.updated (.splice id text base location)).place
      (own.shift scene.graph.nodes.size) = some location :=
    if_neg (by simp)
  rw [origin, place_foldl_updated _ later given, recorded]
  rfl

/-- What the reference of an inline leads to from the document that the inline was
    read from. -/
def target? (scene : Assembled) (id : NodeId) : Option (Except AssetError Location) :=
  (scene.graph.inline? id).map fun inline => Location.resolve (scene.origin id) inline.url

end Assembled

/-! ### What a walk asks for -/

namespace Frame

variable {frame : Frame} {target : NodeId → Option (Except AssetError Location)}
  {met : NodeId → Prop} {node : NodeId}

/-- A frame lists those inlines and no others that have been met, each with what
    its reference leads to, or as one that leads nowhere. -/
structure Asks (frame : Frame) (target : NodeId → Option (Except AssetError Location))
    (met : NodeId → Prop) : Prop where
  pending : ∀ request, request ∈ frame.pending ↔
    met request.node ∧ target request.node = some (.ok request.location)
  unresolved : ∀ id, id ∈ frame.unresolved ↔ met id ∧ ∃ error, target id = some (.error error)

theorem asks_empty (target : NodeId → Option (Except AssetError Location)) :
    ({} : Frame).Asks target fun _ => False :=
  ⟨by simp, by simp⟩

theorem Asks.congr {met' : NodeId → Prop} (asks : frame.Asks target met)
    (same : ∀ id, met' id ↔ met id) : frame.Asks target met' :=
  ⟨fun request => by rw [same]; exact asks.pending request,
    fun id => by rw [same]; exact asks.unresolved id⟩

theorem Asks.add (asks : frame.Asks target met) (draw : Option Draw) :
    (frame.add draw).Asks target met := by
  cases draw <;> exact ⟨asks.pending, asks.unresolved⟩

theorem Asks.met_of_mem_listed (asks : frame.Asks target met) (listed : node ∈ frame.listed) :
    met node := by
  obtain inPending | inUnresolved := List.mem_append.1 listed
  · obtain ⟨request, member, rfl⟩ := List.mem_map.1 inPending
    exact ((asks.pending request).1 (Array.mem_toList_iff.1 member)).1
  · exact ((asks.unresolved node).1 (Array.mem_toList_iff.1 inUnresolved)).1

theorem Asks.request (asks : frame.Asks target met) {url : String} {base : Option Location}
    (leads : target node = some (Location.resolve base url)) :
    (frame.request node url base).Asks target fun id => met id ∨ id = node := by
  by_cases listed : node ∈ frame.listed
  · rw [request_of_mem listed]
    have already := asks.met_of_mem_listed listed
    exact asks.congr fun id => ⟨fun either => either.elim (fun h => h) (· ▸ already), .inl⟩
  · refine ⟨fun request => ?_, fun id => ?_⟩
    · rw [mem_pending_request listed, asks.pending]
      constructor
      · rintro (⟨before, found⟩ | ⟨same, resolved⟩)
        · exact ⟨.inl before, found⟩
        · exact ⟨.inr same, by rw [same, leads, resolved]⟩
      · rintro ⟨before | same, found⟩
        · exact .inl ⟨before, found⟩
        · exact .inr ⟨same, Option.some.inj (leads.symm.trans (same ▸ found))⟩
    · rw [mem_unresolved_request listed, asks.unresolved]
      constructor
      · rintro (⟨before, found⟩ | ⟨same, error, resolved⟩)
        · exact ⟨.inl before, found⟩
        · exact ⟨.inr same, error, by rw [same, leads, resolved]⟩
      · rintro ⟨before | same, error, found⟩
        · exact .inl ⟨before, error, found⟩
        · exact .inr ⟨same, error, Option.some.inj (leads.symm.trans (same ▸ found))⟩

end Frame

namespace Occurrence

variable {σ : Type}

/-- What every visit keeps, as the list of earlier visits grows, holds behind the
    whole walk. -/
theorem kept_of_visits {P : List (Visit σ) → Pass σ → Prop} (host : Host σ) (view : View)
    (occurrence : Occurrence) (seen : List (Visit σ)) (state : Properties × Pass σ)
    (start : P seen state.2)
    (step : ∀ seen, ∀ visit ∈ occurrence.visits host view state, P seen visit.pass →
      P (seen ++ [visit]) (visit.behind host view).2) :
    P (seen ++ occurrence.visits host view state) (occurrence.visit host view state).2 := by
  induction occurrence generalizing seen state with
  | absent id => simpa [visits, visit] using start
  | node id kind arity child ih =>
    obtain ⟨properties, pass⟩ := state
    have first := step seen ⟨id, kind, properties, pass⟩ (by simp [visits]) start
    cases group : kind.isGroup with
    | false =>
      rw [Visit.behind_of_single group] at first
      simpa only [visits, visit, group, Bool.false_eq_true, if_false] using first
    | true =>
      rw [Visit.behind_of_group group] at first
      cases entering : properties.entering? kind with
      | none => simpa only [visits, visit, group, entering, if_true] using first
      | some inner =>
        rw [Pass.shut_of_entering? entering] at first
        simp only [visits, visit, group, entering, if_true] at step ⊢
        have below := fun seen visit member => step seen visit (List.mem_cons_of_mem _ member)
        change P _ (inner, pass).2 at first
        rw [List.append_cons]
        generalize seen ++ [(⟨id, kind, properties, pass⟩ : Visit σ)] = seen at first
        generalize shown kind arity properties.transform view.viewer = positions at below ⊢
        generalize (inner, pass) = state at first below ⊢
        induction positions generalizing seen state with
        | nil => simpa [trail] using first
        | cons position positions further =>
          rw [trail] at below ⊢
          have here := ih position _ _ first fun seen visit member =>
            below seen visit (List.mem_append_left _ member)
          have rest := further _ _ here fun seen visit member =>
            below seen visit (List.mem_append_right _ member)
          simpa only [List.append_assoc, List.foldl_cons] using rest

end Occurrence

namespace Assembled

variable {σ : Type} {host : Host σ} {view : View} {scene : Assembled}

/-- An inline that is still to be asked for has been met. -/
def Met (scene : Assembled) (seen : List (Visit σ)) (id : NodeId) : Prop :=
  scene.graph.status? id = some .pending ∧ ∃ visit ∈ seen, visit.node = id

theorem met_append_of_not_pending {seen : List (Visit σ)} {visit : Visit σ}
    (not_pending : scene.graph.status? visit.node ≠ some .pending) (id : NodeId) :
    scene.Met (seen ++ [visit]) id ↔ scene.Met seen id := by
  constructor
  · rintro ⟨pending, other, member, rfl⟩
    obtain before | here := List.mem_append.1 member
    · exact ⟨pending, other, before, rfl⟩
    · rw [List.mem_singleton.1 here] at pending
      exact absurd pending not_pending
  · rintro ⟨pending, other, member, rfl⟩
    exact ⟨pending, other, List.mem_append_left _ member, rfl⟩

theorem met_append_of_pending {seen : List (Visit σ)} {visit : Visit σ}
    (pending : scene.graph.status? visit.node = some .pending) (id : NodeId) :
    scene.Met (seen ++ [visit]) id ↔ scene.Met seen id ∨ id = visit.node := by
  constructor
  · rintro ⟨status, other, member, rfl⟩
    obtain before | here := List.mem_append.1 member
    · exact .inl ⟨status, other, before, rfl⟩
    · rw [List.mem_singleton.1 here]
      exact .inr rfl
  · rintro (⟨status, other, member, rfl⟩ | rfl)
    · exact ⟨status, other, List.mem_append_left _ member, rfl⟩
    · exact ⟨pending, visit, by simp, rfl⟩

theorem asks_behind {seen : List (Visit σ)} {visit : Visit σ}
    (asks : visit.pass.frame.Asks scene.target? (scene.Met seen))
    (kind : scene.graph.kind? visit.node = some visit.kind)
    (placed : visit.properties.base = scene.origin visit.node) :
    (visit.behind host view).2.frame.Asks scene.target? (scene.Met (seen ++ [visit])) := by
  obtain ⟨node, found, sameKind⟩ := Option.map_eq_some_iff.1 kind
  cases group : visit.kind.isGroup with
  | false =>
    have other : scene.graph.status? visit.node ≠ some .pending := by
      intro pending
      obtain ⟨node', inline, found', isInline, -⟩ := SceneGraph.status?_eq_some_iff.1 pending
      cases found.symm.trans found'
      rw [← sameKind, isInline] at group
      cases group
    rw [Visit.behind_of_single group, Pass.frame_meet]
    exact (asks.add _).congr (met_append_of_not_pending other)
  | true =>
    rw [Visit.behind_of_group group]
    by_cases pending : scene.graph.status? visit.node = some .pending
    · obtain ⟨node', inline, found', isInline, status⟩ :=
        SceneGraph.status?_eq_some_iff.1 pending
      cases found.symm.trans found'
      have leads : scene.target? visit.node =
          some (Location.resolve visit.properties.base inline.url) := by
        rw [target?, SceneGraph.inline?_eq_some_iff.2 ⟨node, found, isInline⟩, placed]
        rfl
      rw [← sameKind, isInline]
      simp only [Pass.shut, status, if_true]
      exact (asks.request leads).congr (met_append_of_pending pending)
    · have shut : visit.pass.shut visit.properties visit.node visit.kind = visit.pass := by
        cases isInline : visit.kind with
        | inline inline =>
          refine if_neg fun status => pending ?_
          exact SceneGraph.status?_eq_some_iff.2
            ⟨node, inline, found, sameKind.trans isInline, status⟩
        | _ => rfl
      rw [shut]
      exact asks.congr (met_append_of_not_pending pending)

namespace Sourced

theorem asks_render (sourced : scene.Sourced) (renderer : Renderer) (host : Host σ) (state : σ)
    (camera : Camera) (aspect : Float32) :
    (renderer.render host state scene.graph camera aspect).1.Asks scene.target?
      (scene.Met (renderer.visits host state scene.graph camera aspect)) := by
  have placed : ∀ visit ∈ renderer.visits host state scene.graph camera aspect,
      visit.properties.base = scene.origin visit.node :=
    fun visit => sourced.base_of_mem_renderer_visits renderer host state camera aspect
  rw [Renderer.visits, SceneGraph.unfolding] at placed ⊢
  rw [Renderer.render, SceneGraph.unfolding]
  cases isRoot : scene.graph.root with
  | none => exact (Frame.asks_empty _).congr fun id => by simp [Met]
  | some root =>
    simp only [isRoot, Option.map_some, Option.elim_some] at placed ⊢
    have asks := Occurrence.kept_of_visits
      (P := fun seen pass => pass.frame.Asks scene.target? (scene.Met seen)) host
      (renderer.view (renderer.lights scene.graph camera) camera aspect)
      (scene.graph.unfold (scene.graph.nodes.size + 1) root) []
      (({ base := scene.graph.base }, { caches := renderer.caches, host := state }) :
        Properties × Pass σ)
      ((Frame.asks_empty _).congr fun id => by simp [Met])
      (fun seen visit member asks =>
        asks_behind asks (Occurrence.kind?_of_mem_visits member) (placed visit member))
    exact ⟨asks.pending, asks.unresolved⟩

end Sourced

/-- In a scene that is put together from documents, a walk is at each node in the
    document that the node was read from, and a frame asks for what the reference
    of an inline means there. The first three parts say what the record is: a
    node of the scene's own document is where the scene is, and one of a document
    that was spliced in is where that document is. -/
theorem references_start_from_own_document {σ : Type} (text : String) (base : Option Location)
    (updates : List SceneGraph.Update) (renderer : Renderer) (host : Host σ) (state : σ)
    (camera : Camera) (aspect : Float32) :
    let scene := updates.foldl updated (ofText text base)
    let visits := renderer.visits host state scene.graph camera aspect
    let frame := (renderer.render host state scene.graph camera aspect).1
    (∀ id, (ofText text base).graph.Stored id → scene.origin id = scene.graph.base) ∧
    ((∀ update ∈ updates, ∀ other, update ≠ .setBase other) → scene.graph.base = base) ∧
    (∀ earlier later id content own location,
      updates = earlier ++ .splice id content own location :: later →
      let before := earlier.foldl updated (ofText text base)
      ∀ inline, before.graph.inline? id = some inline →
      ∀ node, (sceneOf content).Stored node →
        scene.origin (node.shift before.graph.nodes.size) = some location) ∧
    (∀ visit ∈ visits, visit.properties.base = scene.origin visit.node) ∧
    frame.Asks scene.target? (scene.Met visits) := by
  intro scene visits frame
  have sourced : scene.Sourced := (sourced_ofText text base).foldl_updated updates
  refine ⟨fun id stored => origin_of_own stored updates, ?_, ?_, ?_, ?_⟩
  · exact base_foldl_updated _
  · intro earlier later id content own location split before inline isInline node stored
    have history : scene = later.foldl updated
        (before.updated (.splice id content own location)) := by
      simp only [scene, before, split, List.foldl_append, List.foldl_cons]
    rw [history]
    exact before.origin_of_spliced isInline content own location stored later
  · exact fun visit member => sourced.base_of_mem_renderer_visits renderer host state camera aspect
      member
  · exact sourced.asks_render renderer host state camera aspect

end Assembled

end VrmlWorld
