/-
  VrmlWorld/Proofs/Viewer/Agreement.lean
  ======================================
  **Drawing, placing and picking agree on the scene.**

  The three walks are written apart: drawing carries all properties and hands
  some of them back on leaving a group, placing carries a matrix, picking a
  matrix and a link. They go the same way, and a node has the same matrix in
  each of them.
-/
import VrmlWorld.Proofs.Render.Visits
import VrmlWorld.Viewer.Pick

namespace VrmlWorld

open VrmlWorld.Geometry

/-- Whether a node of this kind is placed: it is neither a group nor a
    transform. -/
def NodeKind.isPlaced : NodeKind → Bool
  | .transform _ | .matrixTransform _ => false
  | kind => !kind.isGroup

theorem NodeKind.isPlaced_of_isShape {kind : NodeKind} (shape : kind.isShape = true) :
    kind.isPlaced = true := by
  cases kind with
  | cube | sphere | cone | cylinder | indexedFaceSet | indexedLineSet | pointSet | asciiText => rfl
  | _ => cases shape

def Visit.placed {σ : Type} (visit : Visit σ) : Placed :=
  ⟨visit.node, visit.kind, visit.properties.transform⟩

def Visit.placed? {σ : Type} (visit : Visit σ) : Option Placed :=
  if visit.kind.isPlaced then some visit.placed else none

structure Standing where
  node : NodeId
  solid : Solid
  matrix : Mat4
deriving DecidableEq, Repr

def Target.standing (target : Target) : Standing := ⟨target.node, target.solid, target.matrix⟩

/-- The solid that a placed node stands for, if it can be picked. -/
def Placed.standing? (placed : Placed) : Option Standing :=
  (Solid.ofKind? placed.kind).map fun solid => ⟨placed.node, solid, placed.matrix⟩

namespace Properties

theorem transform_of_entering? {properties inner : Properties} {kind : NodeKind}
    (entering : properties.entering? kind = some inner) :
    inner.transform = properties.transform := by
  cases kind with
  | inline inline =>
    simp only [entering?] at entering
    split at entering <;> cases entering
    rfl
  | _ =>
    cases entering
    rfl

theorem transform_leaving (properties inner : Properties) (kind : NodeKind) :
    (properties.leaving kind inner).transform = properties.transform := by
  rw [leaving]
  split <;> rfl

end Properties

namespace Occurrence

/-! ### Placements and targets as trails -/

theorem placements_group (viewer : Vec3) {kind : NodeKind} (group : kind.isGroup = true)
    (id : NodeId) {arity : Nat} (child : Fin arity → Occurrence) (matrix : Mat4) :
    (node id kind arity child).placements viewer matrix =
      (matrix,
        trail (fun position matrix => ((child position).placements viewer matrix).1)
          (fun position matrix => ((child position).placements viewer matrix).2)
          (shown kind arity matrix viewer) matrix) := by
  have fold := foldl_eq_trail (fun position => (child position).placements viewer)
    (shown kind arity matrix viewer) matrix []
  cases kind with
  | group | switch | lod | anchor | inline => simp [placements, NodeKind.isGroup, fold]
  | _ => cases group

theorem placements_single (viewer : Vec3) {kind : NodeKind} (single : kind.isGroup = false)
    (id : NodeId) {arity : Nat} (child : Fin arity → Occurrence) (matrix : Mat4) :
    ((node id kind arity child).placements viewer matrix).2 =
      if kind.isPlaced then [⟨id, kind, matrix⟩] else [] := by
  cases kind with
  | group | switch | lod | anchor | inline => cases single
  | _ => simp [placements, NodeKind.isGroup, NodeKind.isPlaced]

theorem targets_group (viewer : Vec3) {kind : NodeKind} (group : kind.isGroup = true)
    (id : NodeId) {arity : Nat} (child : Fin arity → Occurrence) (link : Option LinkFrame)
    (matrix : Mat4) :
    let inside := LinkFrame.inside link id kind matrix
    (node id kind arity child).targets viewer link matrix =
      (matrix,
        trail (fun position matrix => ((child position).targets viewer inside matrix).1)
          (fun position matrix => ((child position).targets viewer inside matrix).2)
          (shown kind arity matrix viewer) matrix) := by
  intro inside
  have fold := foldl_eq_trail (fun position => (child position).targets viewer inside)
    (shown kind arity matrix viewer) matrix []
  cases kind with
  | group | switch | lod | anchor | inline => simp [targets, NodeKind.isGroup, inside, fold]
  | _ => cases group

theorem targets_single (viewer : Vec3) {kind : NodeKind} (single : kind.isGroup = false)
    (id : NodeId) {arity : Nat} (child : Fin arity → Occurrence) (link : Option LinkFrame)
    (matrix : Mat4) :
    ((node id kind arity child).targets viewer link matrix).1 =
        ((node id kind arity child).placements viewer matrix).1 ∧
      ((node id kind arity child).targets viewer link matrix).2.map Target.standing =
        ((node id kind arity child).placements viewer matrix).2.filterMap Placed.standing? := by
  cases kind with
  | group | switch | lod | anchor | inline => cases single
  | _ =>
    simp [targets, placements, NodeKind.isGroup, Solid.ofKind?, Placed.standing?, Target.standing]

/-! ### The same nodes in the same places -/

/-- Drawing visits the nodes that are placed in the order in which they are
    placed, each under its matrix; and where a child is done, both go on with
    the same matrix. -/
theorem visits_placed {σ : Type} (host : Host σ) (view : View) (occurrence : Occurrence)
    (state : Properties × Pass σ) :
    (occurrence.visit host view state).1.transform =
        (occurrence.placements view.viewer state.1.transform).1 ∧
      (occurrence.visits host view state).filterMap Visit.placed? =
        (occurrence.placements view.viewer state.1.transform).2 := by
  induction occurrence generalizing state with
  | absent id => exact ⟨rfl, rfl⟩
  | node id kind arity child ih =>
    obtain ⟨properties, pass⟩ := state
    cases group : kind.isGroup with
    | false =>
      constructor
      · cases kind with
        | group | switch | lod | anchor | inline => cases group
        | _ =>
          simp [visit, placements, Pass.meet, NodeKind.isGroup, NodeKind.isShape,
            Properties.after, Properties.withMaterial]
      · rw [placements_single view.viewer group]
        by_cases placed : kind.isPlaced
        · simp [visits, group, Visit.placed?, placed, Visit.placed]
        · simp [visits, group, Visit.placed?, placed]
    | true =>
      have unplaced : Visit.placed? (⟨id, kind, properties, pass⟩ : Visit σ) = none := by
        cases kind with
        | group | switch | lod | anchor | inline => rfl
        | _ => cases group
      rw [placements_group view.viewer group]
      cases entering : properties.entering? kind with
      | none =>
        -- only an inline that is not loaded is shut, and it shows no children
        have hidden : shown kind arity properties.transform view.viewer = [] := by
          cases kind with
          | inline inline =>
            have shut : ¬ inline.status = .loaded := by
              simpa [Properties.entering?] using entering
            simp [active, shut]
          | _ => cases entering
        simp [visit, visits, group, entering, unplaced, hidden, trail]
      | some inner =>
        simp only [visit, visits, group, entering, if_true, Properties.transform_leaving,
          List.filterMap_cons, unplaced, true_and]
        have step : ∀ (position : Fin arity) (state : Properties × Pass σ) (matrix : Mat4),
            state.1.transform = matrix →
              (visit host view (child position) state).1.transform =
                  ((child position).placements view.viewer matrix).1 ∧
                (visits host view (child position) state).filterMap Visit.placed? =
                  ((child position).placements view.viewer matrix).2.filterMap some := by
          rintro position state _ rfl
          simpa using ih position state
        have start : ((inner, pass) : Properties × Pass σ).1.transform = properties.transform :=
          Properties.transform_of_entering? entering
        have placed := trail_filterMap_eq step
          (shown kind arity properties.transform view.viewer) start
        simpa using placed

/-- Picking tries the nodes that are placed and can be picked, in that order and
    in those places. -/
theorem targets_placed (viewer : Vec3) (occurrence : Occurrence) (link : Option LinkFrame)
    (matrix : Mat4) :
    (occurrence.targets viewer link matrix).1 = (occurrence.placements viewer matrix).1 ∧
      (occurrence.targets viewer link matrix).2.map Target.standing =
        (occurrence.placements viewer matrix).2.filterMap Placed.standing? := by
  induction occurrence generalizing link matrix with
  | absent id => exact ⟨rfl, rfl⟩
  | node id kind arity child ih =>
    cases group : kind.isGroup with
    | false => exact targets_single viewer group id child link matrix
    | true =>
      rw [targets_group viewer group, placements_group viewer group]
      generalize LinkFrame.inside link id kind matrix = inside
      have step : ∀ (position : Fin arity) (own same : Mat4), own = same →
          ((child position).targets viewer inside own).1 =
              ((child position).placements viewer same).1 ∧
            ((child position).targets viewer inside own).2.filterMap (some ∘ Target.standing) =
              ((child position).placements viewer same).2.filterMap Placed.standing? := by
        rintro position own _ rfl
        simpa using ih position inside own
      refine ⟨rfl, ?_⟩
      simpa using trail_filterMap_eq step (shown kind arity matrix viewer) rfl

end Occurrence

/-- Members without a counterpart fall out of a list that is mapped. -/
theorem filterMap_sublist_map {α β γ : Type} (counterpart : α → Option β) (f : α → γ)
    (members : List α) :
    (members.filterMap fun a => (counterpart a).map fun _ => f a).Sublist (members.map f) := by
  induction members with
  | nil => exact .slnil
  | cons a others ih =>
    cases found : counterpart a with
    | none => simpa [found] using ih.cons (f a)
    | some b => simpa [found] using ih

namespace Renderer

variable {σ : Type}

/-- The shapes that are visited are those that are placed, in their places. -/
theorem shapes_visits (renderer : Renderer) (host : Host σ) (state : σ) (graph : SceneGraph)
    (camera : Camera) (aspect : Float32) :
    ((renderer.visits host state graph camera aspect).filter (·.kind.isShape)).map Visit.placed =
      (graph.placed camera.position).filter (·.kind.isShape) := by
  have all : (renderer.visits host state graph camera aspect).filterMap Visit.placed? =
      graph.placed camera.position := by
    rw [visits, SceneGraph.placed]
    cases graph.unfolding with
    | none => rfl
    | some root => exact (root.visits_placed host _ _).2
  rw [← all, List.filter_filterMap, ← List.filterMap_eq_map, List.filterMap_filter]
  congr 1
  funext visit
  by_cases shape : visit.kind.isShape
  · have placed := NodeKind.isPlaced_of_isShape shape
    simp [Visit.placed?, Visit.placed, Option.filter, shape, placed]
  · by_cases placed : visit.kind.isPlaced
    · simp [Visit.placed?, Visit.placed, Option.filter, shape, placed]
    · simp [Visit.placed?, shape, placed]

/-- What a frame draws and what a ray is tried on, told by the nodes in their
    places: the draws are those of the placed shapes, in order and in place, and
    a shape goes undrawn only if it has no mesh at its visit (as a text without a
    bitmap has none); the targets are the placed boxes and balls, in order and in
    place, and the pick is the best hit among them. -/
theorem draws_and_targets_in_places (renderer : Renderer) (host : Host σ) (state : σ)
    (graph : SceneGraph) (camera : Camera) (aspect : Float32) (ray : Ray) :
    let placed := graph.placed camera.position
    let shapes := (renderer.visits host state graph camera aspect).filter (·.kind.isShape)
    let view := renderer.view (renderer.lights graph camera) camera aspect
    let draws := (renderer.render host state graph camera aspect).1.draws.toList
    shapes.map Visit.placed = placed.filter (·.kind.isShape) ∧
    draws.map (fun draw => (draw.node, draw.model, draw.mesh)) =
      shapes.filterMap (fun visit =>
        (visit.mesh? host view).map fun mesh => (visit.node, visit.properties.transform, mesh)) ∧
    (draws.map fun draw => (draw.node, draw.model)).Sublist
      ((placed.filter (·.kind.isShape)).map fun shape => (shape.node, shape.matrix)) ∧
    (graph.targets camera.position).map Target.standing = placed.filterMap Placed.standing? ∧
    graph.pickRay ray camera.position =
      (Candidate.best ray (graph.targets camera.position)).map Candidate.hit := by
  intro placed shapes view draws
  have places : shapes.map Visit.placed = placed.filter (·.kind.isShape) :=
    renderer.shapes_visits host state graph camera aspect
  have drawn : draws.map (fun draw => (draw.node, draw.model, draw.mesh)) =
      shapes.filterMap fun visit =>
        (visit.mesh? host view).map fun mesh => (visit.node, visit.properties.transform, mesh) := by
    simp only [draws, shapes, renderer.draws_render, List.map_filterMap, Visit.map_draw?,
      List.filterMap_filter]
    congr 1
    funext visit
    by_cases shape : visit.kind.isShape
    · simp [shape, view]
    · simp [shape, Visit.mesh?_of_not_shape host _ (by simpa using shape)]
  refine ⟨places, drawn, ?_, ?_, rfl⟩
  · have meshless := congrArg (List.map fun drawn => (drawn.1, drawn.2.1)) drawn
    simp only [List.map_map, List.map_filterMap, Option.map_map, Function.comp_def] at meshless
    rw [meshless, ← places, List.map_map]
    exact filterMap_sublist_map (fun visit => visit.mesh? host view) _ shapes
  · simp only [placed, SceneGraph.targets, SceneGraph.placed]
    cases graph.unfolding with
    | none => rfl
    | some root => exact (root.targets_placed camera.position none .identity).2

end Renderer

end VrmlWorld
