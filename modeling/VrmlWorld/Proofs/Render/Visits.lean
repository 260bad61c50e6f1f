/-
  VrmlWorld/Proofs/Render/Visits.lean
  ===================================
  **The visits of a drawing walk, one after the other.**

  `Occurrence.visit` answers with what a walk leaves behind. Statements about a
  frame are about the points on its way: which node is met, with which
  properties, and what the walk has made so far. `Occurrence.visits` lists these
  points, groups among them, and the draws of a frame are read off the list.
-/
import VrmlWorld.Render.Frame

namespace VrmlWorld

open VrmlWorld.Geometry

/-! ### Trails -/

section Trails

variable {α β γ δ S T : Type}

/-- What comes out on the way through a list, when a state goes along. -/
def trail (go : α → S → S) (out : α → S → List β) : List α → S → List β
  | [], _ => []
  | a :: others, state => out a state ++ trail go out others (go a state)

/-- A fold that collects what comes out behind what it has found is a trail. -/
theorem foldl_eq_trail (find : α → S → S × List β) (members : List α) (state : S)
    (found : List β) :
    members.foldl
        (fun (reached : S × List β) a =>
          ((find a reached.1).1, reached.2 ++ (find a reached.1).2))
        (state, found) =
      (members.foldl (fun state a => (find a state).1) state,
        found ++ trail (fun a state => (find a state).1) (fun a state => (find a state).2)
          members state) := by
  induction members generalizing state found with
  | nil => simp [trail]
  | cons a others ih => simp only [List.foldl_cons, ih, trail, List.append_assoc]

/-- Two walks whose states stay related, and which agree at every member on what
    is looked for, agree on the whole way. -/
theorem trail_filterMap_eq {R : S → T → Prop} {go : α → S → S} {go' : α → T → T}
    {out : α → S → List β} {out' : α → T → List γ} {look : β → Option δ} {look' : γ → Option δ}
    (step : ∀ a state state', R state state' → R (go a state) (go' a state') ∧
      (out a state).filterMap look = (out' a state').filterMap look')
    (members : List α) {state : S} {state' : T} (related : R state state') :
    (trail go out members state).filterMap look =
      (trail go' out' members state').filterMap look' := by
  induction members generalizing state state' with
  | nil => rfl
  | cons a others ih =>
    obtain ⟨stays, agree⟩ := step a state state' related
    rw [trail, trail, List.filterMap_append, List.filterMap_append, agree, ih stays]

end Trails

/-! ### Visits -/

/-- A node as a drawing walk meets it: the properties that hold there, and what
    the walk has made and drawn so far. -/
structure Visit (σ : Type) where
  node : NodeId
  kind : NodeKind
  properties : Properties
  pass : Pass σ

/-- The visits of a walk from an occurrence on, in order. -/
def Occurrence.visits {σ : Type} (host : Host σ) (view : View) :
    Occurrence → Properties × Pass σ → List (Visit σ)
  | .absent _, _ => []
  | .node id kind arity child, (properties, pass) =>
      ⟨id, kind, properties, pass⟩ ::
        if kind.isGroup then
          match properties.entering? kind with
          | none => []
          | some inner =>
              trail (fun position => visit host view (child position))
                (fun position => visits host view (child position))
                (shown kind arity properties.transform view.viewer) (inner, pass)
        else []

namespace Visit

variable {σ : Type}

/-- The bitmap that a text finds at a visit, kept or made by the host. -/
def bitmap? (visit : Visit σ) (host : Host σ) (text : AsciiText) : Option TextBitmap :=
  (visit.pass.caches.texts[visit.node]?).getD
    (host.rasterize
      ⟨text.strings, visit.properties.font, text.justification, text.spacing⟩ visit.pass.host).1

/-- The mesh kept for the visited node, or else the one that can be made. -/
def keptOr (visit : Visit σ) (made : Option Mesh) : Option Mesh :=
  visit.pass.caches.meshes.get? visit.node <|> made

/-- The mesh of a visited shape. A text has none unless it has a bitmap. -/
def mesh? (visit : Visit σ) (host : Host σ) (view : View) : Option Mesh :=
  match visit.kind with
  | .asciiText text =>
      (visit.bitmap? host text).bind fun bitmap =>
        visit.keptOr (Tessellation.textQuad? visit.properties.font text.justification text.spacing
          text.strings.length bitmap.aspect)
  | kind =>
      if kind.isShape then
        visit.keptOr (tessellate? kind (visit.properties.context view.segments))
      else none

def draw? (visit : Visit σ) (host : Host σ) (view : View) : Option Draw :=
  match visit.kind with
  | .asciiText text =>
      (visit.bitmap? host text).bind fun bitmap =>
        (visit.mesh? host view).map fun mesh =>
          view.draw visit.properties visit.node mesh
            (some ⟨bitmap.texture, .clamped, .clamped⟩) true
  | _ =>
      (visit.mesh? host view).map fun mesh =>
        view.draw visit.properties visit.node mesh visit.properties.texture
          (mesh.topology != .triangles)

/-- A visit draws exactly when it has a mesh, and draws it in its place. -/
theorem map_draw? (visit : Visit σ) (host : Host σ) (view : View) :
    (visit.draw? host view).map (fun draw => (draw.node, draw.model, draw.mesh)) =
      (visit.mesh? host view).map fun mesh => (visit.node, visit.properties.transform, mesh) := by
  obtain ⟨node, kind, properties, pass⟩ := visit
  cases kind with
  | asciiText text =>
    simp only [draw?, mesh?]
    cases bitmap? ⟨node, .asciiText text, properties, pass⟩ host text with
    | none => rfl
    | some bitmap =>
      simp only [Option.bind_some, Option.map_map]
      rfl
  | _ =>
    simp only [draw?, Option.map_map]
    rfl

theorem mesh?_of_not_shape {visit : Visit σ} (host : Host σ) (view : View)
    (other : visit.kind.isShape = false) : visit.mesh? host view = none := by
  obtain ⟨node, kind, properties, pass⟩ := visit
  cases kind <;> simp_all [mesh?, NodeKind.isShape]

end Visit

/-! ### Draws -/

def Frame.add (frame : Frame) : Option Draw → Frame
  | some draw => { frame with draws := frame.draws.push draw }
  | none => frame

theorem Frame.draws_add (frame : Frame) (draw : Option Draw) :
    (frame.add draw).draws.toList = frame.draws.toList ++ draw.toList := by
  cases draw with
  | none => simp [Frame.add]
  | some draw => simp [Frame.add]

namespace Pass

variable {σ : Type}

theorem mesh_fst (pass : Pass σ) (node : NodeId) (build : Unit → Option Mesh) :
    (pass.mesh node build).1 = (pass.caches.meshes.get? node <|> build ()) := by
  simp only [mesh, MeshCache.getOrBuild]
  cases pass.caches.meshes.get? node with
  | some mesh => rfl
  | none => cases build () <;> rfl

theorem bitmap_fst (pass : Pass σ) (host : Host σ) (properties : Properties) (node : NodeId)
    (text : AsciiText) :
    (pass.bitmap host properties node text).1 =
      Visit.bitmap? ⟨node, .asciiText text, properties, pass⟩ host text := by
  simp only [bitmap, Visit.bitmap?]
  cases pass.caches.texts[node]? <;> rfl

theorem frame_bitmap (pass : Pass σ) (host : Host σ) (properties : Properties) (node : NodeId)
    (text : AsciiText) : (pass.bitmap host properties node text).2.frame = pass.frame := by
  simp only [bitmap]
  cases pass.caches.texts[node]? <;> rfl

theorem meshes_bitmap (pass : Pass σ) (host : Host σ) (properties : Properties) (node : NodeId)
    (text : AsciiText) :
    (pass.bitmap host properties node text).2.caches.meshes = pass.caches.meshes := by
  simp only [bitmap]
  cases pass.caches.texts[node]? <;> rfl

theorem frame_drawShape (pass : Pass σ) (host : Host σ) (view : View) (properties : Properties)
    (node : NodeId) {kind : NodeKind} (shape : kind.isShape = true)
    (noText : ∀ text, kind ≠ .asciiText text) :
    (pass.drawShape view properties node kind).frame =
      pass.frame.add (Visit.draw? ⟨node, kind, properties, pass⟩ host view) := by
  have drawn : Visit.draw? ⟨node, kind, properties, pass⟩ host view =
      (pass.mesh node fun _ => tessellate? kind (properties.context view.segments)).1.map
        fun mesh => view.draw properties node mesh properties.texture
          (mesh.topology != .triangles) := by
    rw [mesh_fst]
    cases kind with
    | asciiText text => exact absurd rfl (noText text)
    | _ => first | rfl | cases shape
  rw [drawn, drawShape]
  generalize made : pass.mesh node _ = answer
  have same : answer.2.frame = pass.frame := made ▸ rfl
  obtain ⟨mesh, behind⟩ := answer
  simp only at same
  cases mesh with
  | none => exact same
  | some mesh => simp [draw, same, Frame.add]

theorem frame_drawText (pass : Pass σ) (host : Host σ) (view : View) (properties : Properties)
    (node : NodeId) (text : AsciiText) :
    (pass.drawText host view properties node text).frame =
      pass.frame.add (Visit.draw? ⟨node, .asciiText text, properties, pass⟩ host view) := by
  have first := pass.bitmap_fst host properties node text
  have sameFrame := pass.frame_bitmap host properties node text
  have sameMeshes := pass.meshes_bitmap host properties node text
  rw [drawText]
  generalize pass.bitmap host properties node text = answer at first sameFrame sameMeshes
  obtain ⟨bitmap, between⟩ := answer
  simp only at first sameFrame sameMeshes
  cases bitmap with
  | none => simp [Visit.draw?, ← first, sameFrame, Frame.add]
  | some bitmap =>
    have meshes : (between.mesh node fun _ => Tessellation.textQuad? properties.font
        text.justification text.spacing text.strings.length bitmap.aspect).1 =
        Visit.mesh? ⟨node, .asciiText text, properties, pass⟩ host view := by
      rw [mesh_fst, sameMeshes]
      simp [Visit.mesh?, ← first, Visit.keptOr]
    simp only [Visit.draw?, ← first, Option.bind_some, ← meshes]
    generalize made : between.mesh node _ = answer
    have same : answer.2.frame = pass.frame := by
      rw [← sameFrame, ← made]
      rfl
    obtain ⟨mesh, behind⟩ := answer
    simp only at same
    cases mesh with
    | none => exact same
    | some mesh => simp [draw, same, Frame.add]

/-- A node that is no group adds its draw, if it has one, and nothing else. -/
theorem frame_meet (pass : Pass σ) (host : Host σ) (view : View) (properties : Properties)
    (node : NodeId) (kind : NodeKind) :
    (pass.meet host view properties node kind).2.frame =
      pass.frame.add (Visit.draw? ⟨node, kind, properties, pass⟩ host view) := by
  cases kind with
  | asciiText text => exact pass.frame_drawText host view properties node text
  | texture2 texture => rfl
  | cube | sphere | cone | cylinder | indexedFaceSet | indexedLineSet | pointSet =>
    exact pass.frame_drawShape host view properties node rfl (by simp)
  | _ => rfl

theorem draws_shut (pass : Pass σ) (properties : Properties) (node : NodeId) (kind : NodeKind) :
    (pass.shut properties node kind).frame.draws = pass.frame.draws := by
  cases kind with
  | inline inline =>
    simp only [shut, Frame.request]
    split
    · split
      · rfl
      · split <;> rfl
    · rfl
  | _ => rfl

end Pass

namespace Occurrence

variable {σ : Type}

/-- The draws of a walk are those of its visits, in their order. -/
theorem draws_visit (host : Host σ) (view : View) (occurrence : Occurrence)
    (state : Properties × Pass σ) :
    (occurrence.visit host view state).2.frame.draws.toList =
      state.2.frame.draws.toList ++
        (occurrence.visits host view state).filterMap (·.draw? host view) := by
  induction occurrence generalizing state with
  | absent id => simp [visit, visits]
  | node id kind arity child ih =>
    obtain ⟨properties, pass⟩ := state
    cases group : kind.isGroup with
    | false =>
      simp only [visit, visits, group, pass.frame_meet host view, Frame.draws_add,
        List.filterMap_cons, Bool.false_eq_true, if_false]
      cases Visit.draw? ⟨id, kind, properties, pass⟩ host view <;> rfl
    | true =>
      have silent : Visit.draw? ⟨id, kind, properties, pass⟩ host view = none := by
        have absent : Visit.mesh? ⟨id, kind, properties, pass⟩ host view = none :=
          Visit.mesh?_of_not_shape host view (by cases kind <;> first | rfl | cases group)
        cases kind <;> simp_all [Visit.draw?]
      cases entering : properties.entering? kind with
      | none => simp [visit, visits, group, entering, silent, pass.draws_shut]
      | some inner =>
        simp only [visit, visits, group, entering, silent, if_true, List.filterMap_cons_none]
        generalize shown kind arity properties.transform view.viewer = positions
        have before : pass.frame.draws = (inner, pass).2.frame.draws := rfl
        rw [before]
        generalize (inner, pass) = state
        induction positions generalizing state with
        | nil => simp [trail]
        | cons position positions further =>
          rw [List.foldl_cons, further, ih, trail, List.filterMap_append, List.append_assoc]

end Occurrence

namespace Renderer

variable {σ : Type}

def visits (renderer : Renderer) (host : Host σ) (state : σ) (graph : SceneGraph)
    (camera : Camera) (aspect : Float32) : List (Visit σ) :=
  graph.unfolding.elim [] fun root =>
    root.visits host (renderer.view (renderer.lights graph camera) camera aspect)
      ({ base := graph.base }, { caches := renderer.caches, host := state })

/-- The draws of a frame are those of the visits, in their order. -/
theorem draws_render (renderer : Renderer) (host : Host σ) (state : σ) (graph : SceneGraph)
    (camera : Camera) (aspect : Float32) :
    (renderer.render host state graph camera aspect).1.draws.toList =
      (renderer.visits host state graph camera aspect).filterMap
        (·.draw? host (renderer.view (renderer.lights graph camera) camera aspect)) := by
  rw [render, visits]
  cases graph.unfolding with
  | none => rfl
  | some root => simp [Occurrence.draws_visit]

end Renderer

end VrmlWorld
