/-
  VrmlWorld/Proofs/Render/Scoping.lean
  ====================================
  **What a group keeps to itself is not seen outside of it.**

  Two scenes may differ in all that a group with its own state encloses. A walk
  through the one and a walk through the other meet the same nodes around the
  group. There they have the same properties but for the texture, and have
  remembered the same of the nodes outside; what they do within the group touches
  neither (`visit_outside`). So both pictures show the same outside
  (`Renderer.outside_of_differWithin`).
-/
import VrmlWorld.Proofs.Render.Memory
import VrmlWorld.Proofs.Scene.Enclosure

namespace VrmlWorld

open VrmlWorld.Geometry

/-! ### Outlines -/

/-- What a draw shows, apart from its texture and the lights. -/
structure Outline where
  node : NodeId
  mesh : Mesh
  model : Mat4
  surface : Surface
  unlit : Bool

def Draw.outline (draw : Draw) : Outline :=
  ⟨draw.node, draw.mesh, draw.model, draw.surface, draw.unlit⟩

/-- Whether light is of no account for a mesh of a node of this kind. -/
def NodeKind.isUnlit : NodeKind → Mesh → Bool
  | .asciiText _, _ => true
  | _, mesh => mesh.topology != .triangles

open Classical in
/-- The outlines of the draws of those nodes that are not within. -/
noncomputable def Frame.outside (frame : Frame) (within : NodeId → Prop) : List Outline :=
  (frame.draws.toList.filter fun draw => ¬within draw.node).map Draw.outline

namespace Visit

variable {σ τ : Type}

theorem map_outline_draw? (visit : Visit σ) (host : Host σ) (view : View) :
    (visit.draw? host view).map Draw.outline =
      (visit.mesh? host view).map fun mesh =>
        ⟨visit.node, mesh, visit.properties.transform, visit.properties.surface,
          visit.kind.isUnlit mesh⟩ := by
  obtain ⟨node, kind, properties, pass⟩ := visit
  cases kind with
  | asciiText text =>
    simp only [draw?, mesh?]
    cases bitmap? ⟨node, .asciiText text, properties, pass⟩ host text with
    | none => rfl
    | some bitmap =>
      simp only [Option.bind_some, Option.map_map]
      rfl
  | _ =>
    simp only [draw?, Option.map_map]
    rfl

theorem node_of_draw? {visit : Visit σ} {host : Host σ} {view : View} {draw : Draw}
    (drawn : visit.draw? host view = some draw) : draw.node = visit.node := by
  have placed := visit.map_draw? host view
  rw [drawn, Option.map_some] at placed
  obtain ⟨mesh, -, same⟩ := Option.map_eq_some_iff.1 placed.symm
  exact (congrArg Prod.fst same).symm

open Classical in
/-- The outline of what a visit draws, unless its node is within. -/
noncomputable def outside? (within : NodeId → Prop) (host : Host σ) (view : View)
    (visit : Visit σ) : Option Outline :=
  if within visit.node then none else (visit.draw? host view).map Draw.outline

end Visit

/-! ### What walks have in common -/

/-- All but the texture. -/
def Properties.untextured (properties : Properties) : Properties := { properties with texture := none }

namespace Properties

variable {properties other : Properties}

theorem untextured_after_congr (same : properties.untextured = other.untextured)
    (kind : NodeKind) : (properties.after kind).untextured = (other.after kind).untextured := by
  have once (properties : Properties) :
      (properties.after kind).untextured = (properties.untextured.after kind).untextured := by
    cases kind <;> simp only [after, withMaterial, untextured]
  rw [once, same, ← once]

theorem untextured_meet {σ : Type} (pass : Pass σ) (host : Host σ) (view : View)
    (properties : Properties) (node : NodeId) (kind : NodeKind) :
    (pass.meet host view properties node kind).1.untextured = (properties.after kind).untextured := by
  cases kind with
  | texture2 texture => rfl
  | _ => simp [Pass.meet, NodeKind.isShape, after]

/-- A group is entered in both walks or in neither, and with the same properties. -/
theorem entering?_congr (same : properties.untextured = other.untextured) (kind : NodeKind) :
    (properties.entering? kind).map untextured = (other.entering? kind).map untextured := by
  cases kind with
  | inline inline =>
    have sameBase : properties.base = other.base := congrArg (·.base) same
    simp only [entering?]
    split
    · have inside := congrArg
        (fun properties : Properties => { properties with base := inline.location <|> other.base })
        same
      simpa [untextured, sameBase] using inside
    · rfl
  | _ => exact congrArg some same

theorem untextured_leaving_congr (same : properties.untextured = other.untextured)
    (kind : NodeKind) {inner inner' : Properties} (sameInner : inner.untextured = inner'.untextured) :
    (properties.leaving kind inner).untextured = (other.leaving kind inner').untextured := by
  rw [leaving, leaving]
  split
  · exact same
  · have sameTransform : properties.transform = other.transform := congrArg (·.transform) same
    have sameBase : properties.base = other.base := congrArg (·.base) same
    rw [sameTransform, sameBase]
    exact congrArg
      (fun inner : Properties => { inner with transform := other.transform, base := other.base })
      sameInner

end Properties

/-- Two passes remember the same of the nodes that are not within. -/
structure Pass.AlikeOutside {σ τ : Type} (within : NodeId → Prop) (pass : Pass σ) (pass' : Pass τ) :
    Prop where
  meshes : ∀ id, ¬within id → pass.caches.meshes.get? id = pass'.caches.meshes.get? id
  texts : ∀ id, ¬within id → pass.caches.texts[id]? = pass'.caches.texts[id]?

/-- Two points of walks with the same properties but for the texture, and with the
    same memory of the nodes that are not within. -/
structure AlikeOutside {σ τ : Type} (within : NodeId → Prop) (state : Properties × Pass σ)
    (state' : Properties × Pass τ) : Prop where
  properties : state.1.untextured = state'.1.untextured
  pass : state.2.AlikeOutside within state'.2

/-- Two walks that come to points which are alike, and show the same on the way but
    for the nodes within. -/
structure WalksAlike {σ τ : Type} (within : NodeId → Prop) (host : Host σ) (host' : Host τ)
    (view view' : View) (occurrence occurrence' : Occurrence) (state : Properties × Pass σ)
    (state' : Properties × Pass τ) : Prop where
  behind : AlikeOutside within (occurrence.visit host view state)
    (occurrence'.visit host' view' state')
  shown : (occurrence.visits host view state).filterMap (Visit.outside? within host view) =
    (occurrence'.visits host' view' state').filterMap (Visit.outside? within host' view')

section Visits

variable {σ τ : Type} {host : Host σ} {host' : Host τ} {bitmaps : TextRequest → Option TextBitmap}
  {view view' : View} {within : NodeId → Prop} {state : Properties × Pass σ}
  {state' : Properties × Pass τ} {id : NodeId} {kind : NodeKind}

/-! ### One node -/

section Node

variable (letters : host.LettersBy bitmaps) (letters' : host'.LettersBy bitmaps)
  (alike : AlikeOutside within state state') (outside : ¬within id) (kind : NodeKind)

include letters letters' alike outside

theorem bitmap?_alike (text : AsciiText) :
    Visit.bitmap? ⟨id, kind, state.1, state.2⟩ host text =
      Visit.bitmap? ⟨id, kind, state'.1, state'.2⟩ host' text := by
  have sameFont : state.1.font = state'.1.font := congrArg (·.font) alike.properties
  simp only [Visit.bitmap?, alike.pass.texts id outside, sameFont, letters _ _, letters' _ _]

theorem mesh?_alike (cut : view.segments = view'.segments) :
    Visit.mesh? ⟨id, kind, state.1, state.2⟩ host view =
      Visit.mesh? ⟨id, kind, state'.1, state'.2⟩ host' view' := by
  have sameContext : state.1.context view.segments = state'.1.context view'.segments := by
    rw [cut]
    exact congrArg (·.context view'.segments) alike.properties
  have sameFont : state.1.font = state'.1.font := congrArg (·.font) alike.properties
  have sameKept := alike.pass.meshes id outside
  cases kind with
  | asciiText text =>
    simp only [Visit.mesh?, Visit.keptOr, sameKept, sameFont,
      bitmap?_alike letters letters' alike outside _ text]
  | _ => simp only [Visit.mesh?, Visit.keptOr, sameKept, sameContext]

theorem lettered?_alike :
    Visit.lettered? ⟨id, kind, state.1, state.2⟩ host =
      Visit.lettered? ⟨id, kind, state'.1, state'.2⟩ host' := by
  cases kind with
  | asciiText text =>
    exact congrArg some (bitmap?_alike letters letters' alike outside _ text)
  | _ => rfl

theorem outside?_alike (cut : view.segments = view'.segments) :
    Visit.outside? within host view ⟨id, kind, state.1, state.2⟩ =
      Visit.outside? within host' view' ⟨id, kind, state'.1, state'.2⟩ := by
  have sameTransform : state.1.transform = state'.1.transform :=
    congrArg (·.transform) alike.properties
  have sameSurface : state.1.surface = state'.1.surface := congrArg (·.surface) alike.properties
  simp only [Visit.outside?, Visit.map_outline_draw?, sameTransform, sameSurface,
    mesh?_alike letters letters' alike outside kind cut]

/-- What a node leaves of two walks stays alike. -/
theorem pass_behind_alike (cut : view.segments = view'.segments) :
    (Visit.behind ⟨id, kind, state.1, state.2⟩ host view).2.AlikeOutside within
      (Visit.behind ⟨id, kind, state'.1, state'.2⟩ host' view').2 := by
  constructor
  · intro node other
    rw [Visit.get?_meshes_behind, Visit.get?_meshes_behind, alike.pass.meshes node other,
      mesh?_alike letters letters' alike outside kind cut]
  · intro node other
    rw [Visit.getElem?_texts_behind, Visit.getElem?_texts_behind, alike.pass.texts node other,
      lettered?_alike letters letters' alike outside kind]

theorem meet_alike (single : kind.isGroup = false) (cut : view.segments = view'.segments) :
    AlikeOutside within (state.2.meet host view state.1 id kind)
      (state'.2.meet host' view' state'.1 id kind) := by
  have behind := pass_behind_alike letters letters' alike outside kind cut
  rw [Visit.behind_of_single single, Visit.behind_of_single single] at behind
  refine ⟨?_, behind⟩
  rw [Properties.untextured_meet, Properties.untextured_meet]
  exact Properties.untextured_after_congr alike.properties kind

theorem visit_single_alike (single : kind.isGroup = false) (cut : view.segments = view'.segments)
    {size : Nat} (child child' : Fin size → Occurrence) :
    WalksAlike within host host' view view' (.node id kind size child) (.node id kind size child')
      state state' := by
  have behind := meet_alike letters letters' alike outside kind single cut
  have here := outside?_alike letters letters' alike outside kind cut
  obtain ⟨properties, pass⟩ := state
  obtain ⟨properties', pass'⟩ := state'
  constructor
  · simpa only [Occurrence.visit, single, Bool.false_eq_true, if_false] using behind
  · simp only [Occurrence.visits, single, Bool.false_eq_true, if_false, List.filterMap_cons,
      List.filterMap_nil, here]

/-- Two walks that are alike behind each child are alike behind the group. -/
theorem visit_group_alike (group : kind.isGroup = true) (cut : view.segments = view'.segments)
    (sameViewer : view.viewer = view'.viewer) {size : Nat} {child child' : Fin size → Occurrence}
    (step : ∀ position (state : Properties × Pass σ) (state' : Properties × Pass τ),
      AlikeOutside within state state' →
      WalksAlike within host host' view view' (child position) (child' position) state state') :
    WalksAlike within host host' view view' (.node id kind size child) (.node id kind size child')
      state state' := by
  have here := outside?_alike letters letters' alike outside kind cut
  obtain ⟨properties, pass⟩ := state
  obtain ⟨properties', pass'⟩ := state'
  have entering := Properties.entering?_congr alike.properties kind
  cases enters : properties.entering? kind with
  | none =>
    have enters' : properties'.entering? kind = none := by
      simpa [enters] using entering.symm
    constructor
    · simp only [Occurrence.visit, group, if_true, enters, enters']
      refine ⟨alike.properties, ?_, ?_⟩
      · simpa using alike.pass.meshes
      · simpa using alike.pass.texts
    · simp only [Occurrence.visits, group, if_true, enters, enters', List.filterMap_cons,
        List.filterMap_nil, here]
  | some inner =>
    obtain ⟨inner', enters', sameInner⟩ : ∃ inner',
        properties'.entering? kind = some inner' ∧ inner'.untextured = inner.untextured := by
      simpa [enters] using entering.symm
    have sameTransform : properties.transform = properties'.transform :=
      congrArg (·.transform) alike.properties
    have start : AlikeOutside within (inner, pass) (inner', pass') := ⟨sameInner.symm, alike.pass⟩
    have left (positions : List (Fin size)) := List.foldl_rel (l := positions) start
      fun position _ state state' alike => (step position state state' alike).behind
    have shown (positions : List (Fin size)) := trail_filterMap_eq
      (fun position state state' alike =>
        ⟨(step position state state' alike).behind, (step position state state' alike).shown⟩)
      positions start
    constructor
    · simp only [Occurrence.visit, group, if_true, enters, enters', sameTransform, sameViewer]
      exact ⟨Properties.untextured_leaving_congr alike.properties kind (left _).properties,
        (left _).pass⟩
    · simp only [Occurrence.visits, group, if_true, enters, enters', List.filterMap_cons, here,
        sameTransform, sameViewer, shown]

end Node

/-! ### Walks within -/

/-- A walk that draws nothing of a node leaves what is remembered of it. -/
theorem memory_of_visits (host : Host σ) (view : View) (occurrence : Occurrence)
    (state : Properties × Pass σ) {node : NodeId}
    (silent : ∀ visit ∈ occurrence.visits host view state,
      visit.node = node → visit.kind.isShape = false) :
    (occurrence.visit host view state).2.caches.meshes.get? node =
        state.2.caches.meshes.get? node ∧
      (occurrence.visit host view state).2.caches.texts[node]? = state.2.caches.texts[node]? := by
  have chained := occurrence.chained_visits host view state
  constructor
  · rw [(Visit.recorded_mesh host view node).first chained, List.findSome?_eq_none_iff.2]
    · simp
    · intro visit member
      split
      · rename_i same
        exact Visit.mesh?_of_not_shape host view (silent visit member same.symm)
      · rfl
  · rw [(Visit.recorded_bitmap host view.segments node).first chained, List.findSome?_eq_none_iff.2]
    · simp
    · intro visit member
      split
      · rename_i same
        have noShape := silent visit member same.symm
        rw [Visit.lettered?]
        split
        · rename_i text isText
          rw [isText] at noShape
          cases noShape
        · rfl
      · rfl

variable {graph other : SceneGraph} {scope : NodeId}

/-- The first visit of a walk is at its node, all others are below. -/
theorem first_or_below_of_mem_visits {occurrence : Occurrence} (unfolds : graph.Unfolds id occurrence)
    {visit : Visit σ} (member : visit ∈ occurrence.visits host view state) :
    (∃ node, graph.get? id = some node ∧ visit = ⟨id, node.kind, state.1, state.2⟩) ∨
      graph.Below id visit.node := by
  induction unfolds generalizing state with
  | @node id node child found below ih =>
    obtain ⟨properties, pass⟩ := state
    simp only [Occurrence.visits, List.mem_cons] at member
    rcases member with rfl | member
    · exact .inl ⟨node, found, rfl⟩
    · right
      split at member
      · split at member
        · cases member
        · obtain ⟨position, -, reached, member⟩ := mem_trail member
          have isChild := SceneGraph.child_of_position found position.2
          rcases ih position.1 position.2 member with ⟨_, -, rfl⟩ | lower
          · exact .single isChild
          · exact .head isChild lower
      · cases member

theorem isGroup_of_restoresState (restores : kind.restoresState = true) : kind.isGroup = true := by
  cases kind <;> first | rfl | cases restores

theorem isShape_of_restoresState (restores : kind.restoresState = true) :
    kind.isShape = false := by
  cases kind <;> first | rfl | cases restores

/-- A walk through a group that keeps its properties to itself shows nothing outside,
    leaves what is remembered of the nodes there, and restores the properties. -/
theorem visit_of_enclosed {occurrence : Occurrence} {node : Node}
    (unfolds : graph.Unfolds scope occurrence) (found : graph.get? scope = some node)
    (restores : node.kind.restoresState = true)
    (inside : ∀ id, graph.Below scope id → within id) (host : Host σ) (view : View)
    (state : Properties × Pass σ) :
    (occurrence.visit host view state).1 = state.1 ∧
      (occurrence.visit host view state).2.AlikeOutside within state.2 ∧
      (occurrence.visits host view state).filterMap (Visit.outside? within host view) = [] := by
  have group := isGroup_of_restoresState restores
  have noShape := isShape_of_restoresState restores
  have silent {id : NodeId} (outside : ¬within id) : ∀ visit ∈ occurrence.visits host view state,
      visit.node = id → visit.kind.isShape = false := by
    intro visit member same
    rcases first_or_below_of_mem_visits unfolds member with ⟨own, foundOwn, rfl⟩ | below
    · cases found.symm.trans foundOwn
      exact noShape
    · exact absurd (inside _ below) (same ▸ outside)
  have memory {id : NodeId} (outside : ¬within id) :=
    memory_of_visits host view occurrence state (silent outside)
  refine ⟨?_, ⟨fun _ outside => (memory outside).1, fun _ outside => (memory outside).2⟩, ?_⟩
  · obtain ⟨found', -⟩ := unfolds
    cases found.symm.trans found'
    obtain ⟨properties, pass⟩ := state
    simp only [Occurrence.visit, group, if_true]
    split
    · rfl
    · rw [Properties.leaving, if_pos restores]
  · rw [List.filterMap_eq_nil_iff]
    intro visit member
    rw [Visit.outside?]
    split
    · rfl
    · rename_i outside
      have unshaped := silent outside visit member rfl
      rw [Visit.map_outline_draw?, Visit.mesh?_of_not_shape host view unshaped]
      rfl

/-! ### Walks around -/

/-- At the group itself two walks go different ways, and are alike behind it. -/
theorem visit_scope (differ : graph.DifferWithin other scope) {occurrence occurrence' : Occurrence}
    (unfolds : graph.Unfolds scope occurrence) (unfolds' : other.Unfolds scope occurrence')
    (alike : AlikeOutside (graph.Within other scope) state state') :
    WalksAlike (graph.Within other scope) host host' view view' occurrence occurrence' state
      state' := by
  obtain ⟨node, children, found, found', restores⟩ := differ.group
  have inside : ∀ id, graph.Below scope id → graph.Within other scope id := fun _ => .inl
  have inside' : ∀ id, other.Below scope id → graph.Within other scope id := fun _ => .inr
  obtain ⟨properties, memory, silent⟩ :=
    visit_of_enclosed unfolds found restores inside host view state
  obtain ⟨properties', memory', silent'⟩ :=
    visit_of_enclosed unfolds' found' restores inside' host' view' state'
  refine ⟨⟨?_, ?_, ?_⟩, silent.trans silent'.symm⟩
  · rw [properties, properties']
    exact alike.properties
  · intro id outside
    rw [memory.meshes id outside, memory'.meshes id outside]
    exact alike.pass.meshes id outside
  · intro id outside
    rw [memory.texts id outside, memory'.texts id outside]
    exact alike.pass.texts id outside

/-- Two walks from a node that is reached around the group stay alike outside, and
    show the same there. -/
theorem visit_outside (differ : graph.DifferWithin other scope) (letters : host.LettersBy bitmaps)
    (letters' : host'.LettersBy bitmaps) (cut : view.segments = view'.segments)
    (sameViewer : view.viewer = view'.viewer) {occurrence occurrence' : Occurrence}
    (unfolds : graph.Unfolds id occurrence) (unfolds' : other.Unfolds id occurrence')
    (reached : graph.ReachedAround scope id)
    (alike : AlikeOutside (graph.Within other scope) state state') :
    WalksAlike (graph.Within other scope) host host' view view' occurrence occurrence' state
      state' := by
  induction unfolds generalizing occurrence' state state' with
  | @node id node child found below ih =>
    by_cases same : id = scope
    · -- below it the two trees have nothing in common, so the walks are told apart as a whole
      subst same
      exact visit_scope differ (.node found below) unfolds' alike
    · have outside := (differ.around reached).2
      obtain @⟨_, node', child', found', below'⟩ := unfolds'
      obtain rfl : node = node' :=
        Option.some.inj (found.symm.trans ((differ.get?_eq reached same).symm.trans found'))
      cases group : node.kind.isGroup with
      | false => exact visit_single_alike letters letters' alike outside node.kind group cut ..
      | true =>
        refine visit_group_alike letters letters' alike outside node.kind group cut sameViewer ?_
        intro position state state' alike
        have isChild := SceneGraph.child_of_position found position.2
        exact ih position.1 position.2 (below' position.1 position.2)
          (reached.child same isChild) alike

end Visits

/-! ### Pictures -/

namespace Renderer

variable {σ : Type}

theorem outside_render (renderer : Renderer) (host : Host σ) (state : σ) (graph : SceneGraph)
    (camera : Camera) (aspect : Float32) (within : NodeId → Prop) :
    (renderer.render host state graph camera aspect).1.outside within =
      (renderer.visits host state graph camera aspect).filterMap
        (Visit.outside? within host
          (renderer.view (renderer.lights graph camera) camera aspect)) := by
  rw [Frame.outside, draws_render, List.filter_filterMap, List.map_filterMap]
  apply List.filterMap_congr
  intro visit _
  rw [Visit.outside?]
  cases drawn : visit.draw? host _ with
  | none => simp
  | some draw => by_cases inside : within visit.node <;> simp [Visit.node_of_draw? drawn, inside]

/-- Nodes that are not reached need not be told apart. -/
theorem outside_congr {graph : SceneGraph} (wellFormed : graph.WellFormed) {root : NodeId}
    (isRoot : graph.root = some root) {within within' : NodeId → Prop}
    (same : ∀ id, Relation.ReflTransGen graph.Child root id → (within id ↔ within' id))
    (renderer : Renderer) (host : Host σ) (state : σ) (camera : Camera) (aspect : Float32) :
    (renderer.render host state graph camera aspect).1.outside within =
      (renderer.render host state graph camera aspect).1.outside within' := by
  rw [outside_render, outside_render]
  apply List.filterMap_congr
  intro visit member
  obtain ⟨occurrence, isTree, unfolds⟩ := wellFormed.unfolding_complete isRoot
  rw [visits, isTree, Option.elim_some] at member
  have reached : Relation.ReflTransGen graph.Child root visit.node := by
    rcases first_or_below_of_mem_visits unfolds member with ⟨_, -, rfl⟩ | below
    · exact .refl
    · exact below.to_reflTransGen
  have sameHere : within visit.node = within' visit.node := propext (same _ reached)
  rw [Visit.outside?, Visit.outside?, sameHere]

/-- Of two scenes that differ within a group which keeps its properties to itself,
    pictures made from nothing show the same outside of the group: the same draws in
    the same order, apart from textures and lights. -/
theorem outside_of_differWithin {graph other : SceneGraph} {scope : NodeId}
    (wellFormed : graph.WellFormed) (wellFormed' : other.WellFormed)
    (differ : graph.DifferWithin other scope) {host : Host σ}
    {bitmaps : TextRequest → Option TextBitmap} (letters : host.LettersBy bitmaps)
    (renderer : Renderer) (state state' : σ) (camera : Camera) (aspect : Float32) :
    (renderer.clear.render host state graph camera aspect).1.outside (graph.Below scope) =
      (renderer.clear.render host state' other camera aspect).1.outside (other.Below scope) := by
  cases isRoot : graph.root with
  | none =>
    have isRoot' : other.root = none := differ.root.trans isRoot
    simp [outside_render, visits, SceneGraph.unfolding, isRoot, isRoot']
  | some root =>
    have isRoot' : other.root = some root := differ.root.trans isRoot
    rw [← outside_congr wellFormed isRoot fun id => differ.within_iff isRoot,
      ← outside_congr wellFormed' isRoot' fun id reached =>
        or_comm.trans (differ.symm.within_iff isRoot' reached)]
    rw [outside_render, outside_render, visits, visits]
    obtain ⟨occurrence, isTree, unfolds⟩ := wellFormed.unfolding_complete isRoot
    obtain ⟨occurrence', isTree', unfolds'⟩ := wellFormed'.unfolding_complete isRoot'
    have start : AlikeOutside (graph.Within other scope)
        (({ base := graph.base } : Properties),
          ({ caches := renderer.clear.caches, host := state } : Pass σ))
        (({ base := other.base } : Properties),
          ({ caches := renderer.clear.caches, host := state' } : Pass σ)) :=
      ⟨by rw [differ.base], fun _ _ => rfl, fun _ _ => rfl⟩
    have around : graph.ReachedAround scope root := ⟨root, isRoot, .refl⟩
    have walks (view view' : View) (cut : view.segments = view'.segments)
        (sameViewer : view.viewer = view'.viewer) :=
      (visit_outside differ letters letters cut sameViewer unfolds unfolds' around start).shown
    rw [isTree, isTree']
    exact walks _ _ rfl rfl

/-- The scene of `Group { Separator { … } Cube {} }` with a separator that holds the
    same node a number of times. -/
def separated (inner : NodeKind) (count : Nat) : SceneGraph :=
  { (((SceneGraph.empty.insert { kind := inner }).insert
      { kind := .group .separator, children := List.replicate count ⟨0⟩ }).insert
      { kind := .cube {} }).insert
      { kind := .group .group, children := [⟨1⟩, ⟨2⟩] } with root := some ⟨3⟩ }

section Separated

variable {inner inner' : NodeKind} {count count' : Nat} {parent child : NodeId}

theorem get?_separated (inner : NodeKind) (count : Nat) (id : NodeId) :
    (separated inner count).get? id =
      if id = ⟨3⟩ then some { kind := .group .group, children := [⟨1⟩, ⟨2⟩] }
      else if id = ⟨2⟩ then some { kind := .cube {} }
      else if id = ⟨1⟩ then
        some { kind := .group .separator, children := List.replicate count ⟨0⟩ }
      else if id = ⟨0⟩ then some { kind := inner }
      else none := by
  have stored (graph : SceneGraph) :
      SceneGraph.get? { graph with root := some ⟨3⟩ } id = graph.get? id := rfl
  rw [separated, stored, SceneGraph.get?_insert, SceneGraph.get?_insert, SceneGraph.get?_insert,
    SceneGraph.get?_insert, SceneGraph.get?_empty]
  rfl

theorem child_separated (step : (separated inner count).Child parent child) :
    (parent = ⟨3⟩ ∧ (child = ⟨1⟩ ∨ child = ⟨2⟩)) ∨ (parent = ⟨1⟩ ∧ child = ⟨0⟩) := by
  obtain ⟨node, found⟩ := SceneGraph.stored_of_mem_children step
  rw [SceneGraph.child_iff_of_get? found] at step
  rw [get?_separated] at found
  split at found
  · cases found
    exact .inl ⟨‹_›, by simpa using step⟩
  · split at found
    · cases found
      cases step
    · split at found
      · cases found
        exact .inr ⟨‹_›, (List.mem_replicate.1 step).2⟩
      · split at found
        · cases found
          cases step
        · cases found

theorem ranked_separated (inner : NodeKind) (count : Nat) :
    (separated inner count).Ranked NodeId.index := by
  intro parent child step
  rcases child_separated step with ⟨rfl, rfl | rfl⟩ | ⟨rfl, rfl⟩ <;> decide

theorem wellFormed_separated (inner : NodeKind) (count : Nat) :
    (separated inner count).WellFormed where
  root_stored := by
    rintro root ⟨⟩
    exact ⟨_, get?_separated inner count ⟨3⟩⟩
  root_top := by
    rintro root ⟨⟩ parent step
    rcases child_separated step with ⟨-, same | same⟩ | ⟨-, same⟩ <;> cases same
  children_stored := by
    intro parent child step
    rcases child_separated step with ⟨-, rfl | rfl⟩ | ⟨-, rfl⟩ <;>
      exact ⟨_, get?_separated inner count _⟩
  acyclic := (ranked_separated inner count).acyclic

theorem not_reachedAround_separated {id : NodeId}
    (below : (separated inner count).Below ⟨1⟩ id) :
    ¬(separated inner count).ReachedAround ⟨1⟩ id := by
  have lower : id.index < 1 := (ranked_separated inner count).below_lt below
  rintro ⟨root, ⟨⟩, way⟩
  rcases Relation.ReflTransGen.cases_tail way with rfl | ⟨parent, -, apart, step⟩
  · contradiction
  · rcases child_separated step with ⟨-, rfl | rfl⟩ | ⟨same, -⟩
    · contradiction
    · contradiction
    · exact apart same

theorem differWithin_separated (inner inner' : NodeKind) (count count' : Nat) :
    (separated inner (count + 1)).DifferWithin (separated inner' count') ⟨1⟩ where
  root := rfl
  base := rfl
  group := ⟨_, _, get?_separated inner (count + 1) ⟨1⟩, get?_separated inner' count' ⟨1⟩, rfl⟩
  elsewhere := by
    intro id apart outside
    have other : id ≠ ⟨0⟩ := by
      rintro rfl
      have found := get?_separated inner (count + 1) ⟨1⟩
      exact outside (.inl (.single ((SceneGraph.child_iff_of_get? found).2 (by simp))))
    simp only [get?_separated, apart, other, if_false]
  enclosed _ := not_reachedAround_separated
  enclosed_other _ := not_reachedAround_separated

/-- What stands beside the separator looks the same whether that holds a material, or
    a move to one side twice. -/
theorem outside_of_separated_material_or_translation :
    let host : Host Unit :=
      { loadTexture := fun _ state => (.error .noRootNode, state)
        rasterize := fun _ state => (none, state) }
    let coloured := separated (.material {}) 1
    let moved := separated (.transform { translation := ⟨1, 0, 0⟩ }) 2
    let camera := Camera.ofSettings {}
    coloured.WellFormed ∧ moved.WellFormed ∧ coloured.DifferWithin moved ⟨1⟩ ∧
      host.LettersBy (fun _ => none) ∧
      ((ofSettings {}).clear.render host () coloured camera 1).1.outside (coloured.Below ⟨1⟩) =
        ((ofSettings {}).clear.render host () moved camera 1).1.outside (moved.Below ⟨1⟩) := by
  intro host coloured moved camera
  have wellFormed : coloured.WellFormed := wellFormed_separated _ 1
  have wellFormed' : moved.WellFormed := wellFormed_separated _ 2
  have differ : coloured.DifferWithin moved ⟨1⟩ := differWithin_separated _ _ 0 2
  have letters : host.LettersBy (fun _ => none) := fun _ _ => rfl
  exact ⟨wellFormed, wellFormed', differ, letters,
    outside_of_differWithin wellFormed wellFormed' differ letters (ofSettings {}) () () camera 1⟩

end Separated

end Renderer

end VrmlWorld
