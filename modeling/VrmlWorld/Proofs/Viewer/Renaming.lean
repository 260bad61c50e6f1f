/-
  VrmlWorld/Proofs/Viewer/Renaming.lean
  =====================================
  **Walks through a tree whose nodes have other names.**

  No walk looks at the name of a node, and none looks at what is around the tree
  but for the matrix, the place of the document and the link that it starts with.
  So placing, aiming and listing find the same in a renamed tree under the new
  names, and a link around the tree is that of whatever has none in it
  (`targets_within`).

  What a drawing walk lists is told here without the walk: `asks` gives the
  inlines that it comes to, and the frame is asked for them one after the other
  (`asks_visit`).
-/
import VrmlWorld.Proofs.Render.Repeats
import VrmlWorld.Proofs.Scene.Embedding
import VrmlWorld.Proofs.Scene.Origins
import VrmlWorld.Proofs.Viewer.Agreement

namespace VrmlWorld

open VrmlWorld.Geometry

/-- Two walks through a list with the same states, one of which finds the images
    of what the other finds. -/
theorem trail_map_out {α β γ S : Type} {go go' : α → S → S} {out : α → S → List β}
    {out' : α → S → List γ} (f : β → γ) (goes : ∀ a state, go' a state = go a state)
    (outs : ∀ a state, out' a state = (out a state).map f) (members : List α) (state : S) :
    trail go' out' members state = (trail go out members state).map f := by
  induction members generalizing state with
  | nil => rfl
  | cons a members ih => rw [trail, trail, List.map_append, goes, outs, ih]

/-! ### What is found, under other names -/

def Placed.rename (f : NodeId → NodeId) (placed : Placed) : Placed :=
  { placed with node := f placed.node }

def LinkFrame.rename (f : NodeId → NodeId) (link : LinkFrame) : LinkFrame :=
  { link with node := f link.node }

def Target.rename (f : NodeId → NodeId) (target : Target) : Target :=
  { target with node := f target.node, link := target.link.map (·.rename f) }

/-- The target in a scene with a link around it, which counts unless there is one
    further inside. -/
def Target.within (link : Option LinkFrame) (target : Target) : Target :=
  { target with link := target.link <|> link }

/-- An inline that a frame is to list. -/
structure Ask where
  node : NodeId
  url : String
  base : Option Location

def Ask.rename (f : NodeId → NodeId) (ask : Ask) : Ask := { ask with node := f ask.node }

namespace Frame

def ask (frame : Frame) (ask : Ask) : Frame := frame.request ask.node ask.url ask.base

variable {frame other further : Frame}

theorem AsksAlike.refl (frame : Frame) : frame.AsksAlike frame := ⟨rfl, rfl⟩

theorem AsksAlike.trans (first : frame.AsksAlike other) (second : other.AsksAlike further) :
    frame.AsksAlike further :=
  ⟨first.1.trans second.1, first.2.trans second.2⟩

theorem AsksAlike.foldl_ask (alike : frame.AsksAlike other) (asked : List Ask) :
    (asked.foldl ask frame).AsksAlike (asked.foldl ask other) := by
  induction asked generalizing frame other with
  | nil => exact alike
  | cons first asked ih => exact ih (alike.request first.node first.url first.base)

end Frame

namespace Occurrence

/-! ### Placing -/

theorem placements_rename (f : NodeId → NodeId) (viewer : Vec3) (occurrence : Occurrence)
    (matrix : Mat4) :
    (occurrence.rename f).placements viewer matrix =
      ((occurrence.placements viewer matrix).1,
        (occurrence.placements viewer matrix).2.map (·.rename f)) := by
  induction occurrence generalizing matrix with
  | absent id => rfl
  | node id kind arity child ih =>
    cases group : kind.isGroup with
    | true =>
      rw [rename, placements_group viewer group, placements_group viewer group]
      exact congrArg (matrix, ·) (trail_map_out _ (fun position matrix => by rw [ih])
        (fun position matrix => by rw [ih]) _ matrix)
    | false =>
      cases kind with
      | group | switch | lod | anchor | inline => cases group
      | _ => simp [rename, placements, NodeKind.isGroup, Placed.rename]

/-! ### Aiming -/

/-- The link around a tree reaches its targets through the links inside. -/
theorem targets_within (viewer : Vec3) (occurrence : Occurrence) (link : Option LinkFrame)
    (matrix : Mat4) :
    occurrence.targets viewer link matrix =
      ((occurrence.targets viewer none matrix).1,
        (occurrence.targets viewer none matrix).2.map (·.within link)) := by
  induction occurrence generalizing link matrix with
  | absent id => rfl
  | node id kind arity child ih =>
    cases group : kind.isGroup with
    | true =>
      rw [targets_group viewer group, targets_group viewer group]
      refine congrArg (matrix, ·) (trail_map_out _ (fun position reached => ?_)
        (fun position reached => ?_) _ matrix)
      · rw [ih, ih position (LinkFrame.inside none id kind matrix)]
      · rw [ih, ih position (LinkFrame.inside none id kind matrix), List.map_map]
        -- An anchor is further inside than all links around it.
        refine List.map_congr_left fun target _ => ?_
        cases kind <;> cases own : target.link <;>
          simp [Target.within, LinkFrame.inside, own]
    | false =>
      cases kind with
      | group | switch | lod | anchor | inline => cases group
      | _ => simp [targets, NodeKind.isGroup, Target.within, Solid.ofKind?]

theorem inside_rename (f : NodeId → NodeId) (link : Option LinkFrame) (id : NodeId)
    (kind : NodeKind) (matrix : Mat4) :
    LinkFrame.inside (link.map (·.rename f)) (f id) kind matrix =
      (LinkFrame.inside link id kind matrix).map (·.rename f) := by
  cases kind <;> rfl

theorem targets_rename (f : NodeId → NodeId) (viewer : Vec3) (occurrence : Occurrence)
    (link : Option LinkFrame) (matrix : Mat4) :
    (occurrence.rename f).targets viewer (link.map (·.rename f)) matrix =
      ((occurrence.targets viewer link matrix).1,
        (occurrence.targets viewer link matrix).2.map (·.rename f)) := by
  induction occurrence generalizing link matrix with
  | absent id => rfl
  | node id kind arity child ih =>
    cases group : kind.isGroup with
    | true =>
      rw [rename, targets_group viewer group, targets_group viewer group, inside_rename]
      exact congrArg (matrix, ·) (trail_map_out _ (fun position reached => by rw [ih])
        (fun position reached => by rw [ih]) _ matrix)
    | false =>
      cases kind with
      | group | switch | lod | anchor | inline => cases group
      | _ => simp [rename, targets, NodeKind.isGroup, Target.rename, Solid.ofKind?]

/-! ### Listing -/

/-- What a node is to be listed with, if it is an inline to be asked for. -/
def asked (id : NodeId) (kind : NodeKind) (base : Option Location) : List Ask :=
  match kind with
  | .inline inline => if inline.status = .pending then [⟨id, inline.url, base⟩] else []
  | _ => []

/-- The inlines that a drawing walk lists from an occurrence on, in order, those
    included that it lists more than once. -/
def asks (viewer : Vec3) : Occurrence → Option Location → Mat4 → List Ask
  | .absent _, _, _ => []
  | .node id kind arity child, base, matrix =>
      asked id kind base ++
        if kind.isGroup then
          trail (fun position matrix => ((child position).placements viewer matrix).1)
            (fun position matrix => asks viewer (child position) (kind.shownPlace? <|> base) matrix)
            (shown kind arity matrix viewer) matrix
        else []

theorem asks_rename (f : NodeId → NodeId) (viewer : Vec3) (occurrence : Occurrence)
    (base : Option Location) (matrix : Mat4) :
    (occurrence.rename f).asks viewer base matrix =
      (occurrence.asks viewer base matrix).map (·.rename f) := by
  induction occurrence generalizing base matrix with
  | absent id => rfl
  | node id kind arity child ih =>
    have own : asked (f id) kind base = (asked id kind base).map (·.rename f) := by
      cases kind with
      | inline inline =>
        rw [asked, asked]
        split <;> rfl
      | _ => rfl
    rw [rename, asks, asks, List.map_append, own]
    congr 1
    split
    · exact trail_map_out _ (fun position reached => by rw [placements_rename])
        (fun position reached => ih position _ reached) _ matrix
    · rfl

section Drawing

variable {σ : Type} {host : Host σ} {view : View}

/-- An inline that a walk does not enter shows nothing, and is listed if it is
    still to be asked for. -/
theorem asks_of_not_entering {properties : Properties} {kind : NodeKind}
    (shut : properties.entering? kind = none) (id : NodeId) {arity : Nat}
    (child : Fin arity → Occurrence) (viewer : Vec3) (matrix : Mat4) (pass : Pass σ) :
    (pass.shut properties id kind).frame =
      ((node id kind arity child).asks viewer properties.base matrix).foldl Frame.ask pass.frame := by
  cases kind with
  | inline inline =>
    have unloaded : ¬ inline.status = .loaded := by
      simpa [Properties.entering?] using shut
    simp only [Pass.shut, asks, asked, active, if_neg unloaded, trail, ite_self, List.append_nil]
    split <;> rfl
  | _ => cases shut

theorem asked_of_entering {properties inner : Properties} {kind : NodeKind}
    (entering : properties.entering? kind = some inner) (id : NodeId) (base : Option Location) :
    asked id kind base = [] := by
  cases kind with
  | inline inline =>
    have loaded : inline.status = .loaded := by
      cases status : inline.status <;> simp [Properties.entering?, status] at entering ⊢
    simp [asked, loaded]
  | _ => rfl

/-- Walking through some children one after the other lists what each of them
    lists from the place that the ones before it have led to. -/
theorem asks_children {arity : Nat} {child : Fin arity → Occurrence}
    (each : ∀ position (state : Properties × Pass σ),
      ((child position).visit host view state).2.frame.AsksAlike
        (((child position).asks view.viewer state.1.base state.1.transform).foldl Frame.ask
          state.2.frame))
    (positions : List (Fin arity)) (state : Properties × Pass σ) {base : Option Location}
    (sameBase : base = state.1.base) :
    (positions.foldl (fun state position => (child position).visit host view state)
        state).2.frame.AsksAlike
      ((trail (fun position matrix => ((child position).placements view.viewer matrix).1)
        (fun position matrix => (child position).asks view.viewer base matrix) positions
          state.1.transform).foldl Frame.ask state.2.frame) := by
  induction positions generalizing state with
  | nil => exact .refl _
  | cons position positions ih =>
    have first := each position state
    have rest := ih ((child position).visit host view state)
      (sameBase.trans (base_visit _ state).symm)
    rw [(visits_placed host view (child position) state).1] at rest
    rw [← sameBase] at first
    rw [trail, List.foldl_append, List.foldl_cons]
    exact rest.trans (first.foldl_ask _)

/-- The frame of a drawing walk is asked for the inlines that the walk comes to. -/
theorem asks_visit (occurrence : Occurrence) (state : Properties × Pass σ) :
    (occurrence.visit host view state).2.frame.AsksAlike
      ((occurrence.asks view.viewer state.1.base state.1.transform).foldl Frame.ask
        state.2.frame) := by
  induction occurrence generalizing state with
  | absent id => exact .refl _
  | node id kind arity child ih =>
    obtain ⟨properties, pass⟩ := state
    cases group : kind.isGroup with
    | false =>
      have silent : asked id kind properties.base = [] := by
        cases kind with
        | group | switch | lod | anchor | inline => cases group
        | _ => rfl
      simp only [visit, asks, group, silent, Bool.false_eq_true, if_false, List.append_nil,
        List.foldl_nil, pass.frame_meet host view]
      exact Frame.asksAlike_add ..
    | true =>
      cases entering : properties.entering? kind with
      | none =>
        simp only [visit, group, entering, if_true]
        rw [asks_of_not_entering entering id child view.viewer properties.transform pass]
        exact .refl _
      | some inner =>
        simp only [visit, asks, group, entering, if_true, asked_of_entering entering,
          List.nil_append, ← Properties.base_of_entering? entering,
          ← Properties.transform_of_entering? entering]
        exact asks_children ih _ (inner, pass) rfl

end Drawing

end Occurrence

end VrmlWorld
