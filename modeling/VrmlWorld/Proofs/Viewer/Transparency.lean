/-
  VrmlWorld/Proofs/Viewer/Transparency.lean
  =========================================
  **A group that lets its properties through is transparent but for its transforms.**

  On leaving a group its transform and its location go back, and all other properties go
  on unless the group keeps them. So if a group shows all its children and keeps nothing,
  and none of its own children is a transform, then nothing goes back that has changed:
  whoever lists the group might list its children in its place. A walk ends in the same
  state in both scenes (`Walk.Ends.ungrouped`), and so nothing that is drawn, lit, looked
  from or picked changes.
-/
import VrmlWorld.Proofs.Viewer.Walk
import VrmlWorld.Viewer.Viewpoint

namespace VrmlWorld

open VrmlWorld.Geometry

/-! ### Kinds of nodes -/

def NodeKind.isTransform : NodeKind → Bool
  | .transform _ | .matrixTransform _ => true
  | _ => false

/-- Whether all children are shown, however many there are. -/
def NodeKind.showsAll : NodeKind → Bool
  | .group _ | .anchor _ => true
  | .switch selection => selection.whichChild == Switch.all
  | .inline document => document.status == .loaded
  | _ => false

namespace NodeKind

variable {kind : NodeKind}

theorem isGroup_of_showsAll (shows : kind.showsAll = true) : kind.isGroup = true := by
  cases kind with
  | group | switch | anchor | inline => rfl
  | _ => cases shows

theorem active_of_showsAll {α : Type} (shows : kind.showsAll = true) (children : List α)
    (placement : Mat4) (viewer : Vec3) : active kind children placement viewer = children := by
  cases kind with
  | group | anchor => rfl
  | switch selection =>
    have all : selection.whichChild = Switch.all := beq_iff_eq.1 shows
    rw [active, if_pos all]
  | inline document =>
    have loaded : document.status = .loaded := beq_iff_eq.1 shows
    rw [active, if_pos loaded]
  | _ => cases shows

end NodeKind

/-! ### What a walk gives back -/

namespace Walk

variable {S K : Type} {walk : Walk S} {graph : SceneGraph} {kept : S → K}
  {id : NodeId} {ids : List NodeId} {state finish : S}

/-- A walk gives back a part of its state on leaving any group. Only transforms change
    that part, and a group that keeps nothing to itself gives back no more than it. -/
structure GivesBack (walk : Walk S) (kept : S → K) : Prop where
  meet : ∀ id kind state, kind.isTransform = false → kept (walk.meet id kind state) = kept state
  leave : ∀ kind state inner, kept (walk.leave kind state inner) = kept state
  enter_open : ∀ id kind state, kind.showsAll = true → kind.restoresState = false →
    walk.enter id kind state = state
  leave_open : ∀ kind state inner, kind.showsAll = true → kind.restoresState = false →
    kept inner = kept state → walk.leave kind state inner = inner

theorem Ends.kept_eq (gives : walk.GivesBack kept) (ends : walk.Ends graph id state finish)
    (still : ∀ kind, graph.kind? id = some kind → kind.isTransform = false) :
    kept finish = kept state := by
  cases ends with
  | absent => rfl
  | leaf found single => exact gives.meet _ _ _ (still _ (by simp [SceneGraph.kind?, found]))
  | group found many below => exact gives.leave _ _ _

theorem EndsAll.kept_eq (gives : walk.GivesBack kept) (ends : walk.EndsAll graph ids state finish)
    (still : ∀ id ∈ ids, ∀ kind, graph.kind? id = some kind → kind.isTransform = false) :
    kept finish = kept state := by
  induction ids generalizing state with
  | nil =>
    cases ends
    rfl
  | cons id ids ih =>
    cases ends with
    | cons first rest =>
      rw [ih rest fun other member => still other (List.mem_cons_of_mem _ member)]
      exact first.kept_eq gives (still id List.mem_cons_self)

/-- Through a group that keeps nothing, and no child of which is a transform, a walk goes
    as through the children alone. -/
theorem Ends.through {node : Node} (gives : walk.GivesBack kept)
    (found : graph.get? id = some node) (shows : node.kind.showsAll = true)
    (leaks : node.kind.restoresState = false)
    (still : ∀ child ∈ node.children, ∀ kind, graph.kind? child = some kind →
      kind.isTransform = false)
    (ends : walk.Ends graph id state finish) : walk.EndsAll graph node.children state finish := by
  cases ends with
  | absent gone => cases found.symm.trans gone
  | leaf found' single =>
    cases found.symm.trans found'
    cases (NodeKind.isGroup_of_showsAll shows).symm.trans single
  | group found' many below =>
    cases found.symm.trans found'
    rw [NodeKind.active_of_showsAll shows, gives.enter_open _ _ _ shows leaks] at below
    rwa [gives.leave_open _ _ _ shows leaks (below.kept_eq gives still)]

end Walk

/-! ### Ungrouping -/

namespace SceneGraph

/-- A group that shows all its children and keeps nothing to itself, none of whose
    children is a transform, and one place in the list of a node that shows all its
    children. -/
structure Ungrouping (graph : SceneGraph) where
  parent : NodeId
  list : Node
  group : NodeId
  own : Node
  before : List NodeId
  behind : List NodeId
  parent_found : graph.get? parent = some list
  parent_shows : list.kind.showsAll = true
  listed : list.children = before ++ group :: behind
  group_found : graph.get? group = some own
  group_shows : own.kind.showsAll = true
  group_leaks : own.kind.restoresState = false
  still : ∀ child ∈ own.children, ∀ kind, graph.kind? child = some kind → kind.isTransform = false

namespace Ungrouping

variable {graph : SceneGraph} {id other : NodeId}

/-- The scene with the children of the group in its place in the list. -/
def result (change : graph.Ungrouping) : SceneGraph :=
  graph.modify change.parent fun node =>
    { node with children := change.before ++ change.own.children ++ change.behind }

variable (change : graph.Ungrouping)

theorem child_group : graph.Child change.parent change.group := by
  rw [child_iff_of_get? change.parent_found, change.listed]
  simp

theorem get?_result_of_ne (different : id ≠ change.parent) :
    change.result.get? id = graph.get? id := by
  rw [result, get?_modify, if_neg different]

theorem get?_result_parent : change.result.get? change.parent =
    some { change.list with children := change.before ++ change.own.children ++ change.behind } := by
  rw [result, get?_modify, if_pos rfl, change.parent_found, Option.map_some]

theorem root_result : change.result.root = graph.root := rfl

theorem base_result : change.result.base = graph.base := rfl

theorem kind?_result (id : NodeId) : change.result.kind? id = graph.kind? id := by
  by_cases same : id = change.parent
  · subst same
    simp [kind?, change.get?_result_parent, change.parent_found]
  · simp [kind?, change.get?_result_of_ne same]

theorem below_of_child_result (step : change.result.Child id other) : graph.Below id other := by
  by_cases same : id = change.parent
  · subst same
    rw [child_iff_of_get? change.get?_result_parent] at step
    have direct {child : NodeId} (member : child ∈ change.list.children) :
        graph.Below change.parent child :=
      .single ((child_iff_of_get? change.parent_found).2 member)
    rw [List.mem_append, List.mem_append] at step
    obtain (front | own) | back := step
    · exact direct (by simp [change.listed, front])
    · exact .tail (.single change.child_group) ((child_iff_of_get? change.group_found).2 own)
    · exact direct (by simp [change.listed, back])
  · rw [Child, children, change.get?_result_of_ne same] at step
    exact .single step

theorem acyclic_result (acyclic : graph.Acyclic) : change.result.Acyclic :=
  fun id below =>
    acyclic id (Relation.TransGen.closed (fun _ _ => change.below_of_child_result) _ _ below)

theorem group_ne_parent (acyclic : graph.Acyclic) : change.group ≠ change.parent := by
  intro same
  have step := change.child_group
  rw [same] at step
  exact acyclic _ (.single step)

end Ungrouping

end SceneGraph

namespace Walk

variable {S K : Type} {walk : Walk S} {graph : SceneGraph} {kept : S → K}

/-- Through the list with the group a walk goes as through the list without it. -/
theorem EndsAll.through_list {state finish : S} (gives : walk.GivesBack kept)
    (acyclic : graph.Acyclic) (change : graph.Ungrouping)
    (ends : walk.EndsAll change.result change.list.children state finish) :
    walk.EndsAll change.result (change.before ++ change.own.children ++ change.behind) state
      finish := by
  rw [change.listed, endsAll_append] at ends
  obtain ⟨_, front, _ | ⟨atGroup, back⟩⟩ := ends
  have found : change.result.get? change.group = some change.own :=
    (change.get?_result_of_ne (change.group_ne_parent acyclic)).trans change.group_found
  have inside := atGroup.through gives found change.group_shows change.group_leaks
    fun child member kind => by
      rw [change.kind?_result]
      exact change.still child member kind
  exact endsAll_append.2 ⟨_, endsAll_append.2 ⟨_, front, inside⟩, back⟩

mutual

/-- Ungrouping changes no walk. -/
theorem Ends.ungrouped {id : NodeId} {state finish : S} (gives : walk.GivesBack kept)
    (acyclic : graph.Acyclic) (change : graph.Ungrouping) :
    walk.Ends graph id state finish → walk.Ends change.result id state finish
  | .absent gone => by
    have different : id ≠ change.parent := by
      rintro rfl
      cases change.parent_found.symm.trans gone
    exact .absent ((change.get?_result_of_ne different).trans gone)
  | .leaf found single => by
    have different : id ≠ change.parent := by
      rintro rfl
      cases change.parent_found.symm.trans found
      cases (NodeKind.isGroup_of_showsAll change.parent_shows).symm.trans single
    exact .leaf ((change.get?_result_of_ne different).trans found) single
  | .group found many below => by
    have after := below.ungrouped gives acyclic change
    by_cases same : id = change.parent
    · subst same
      cases change.parent_found.symm.trans found
      rw [NodeKind.active_of_showsAll change.parent_shows] at after
      have through := after.through_list gives acyclic change
      rw [← NodeKind.active_of_showsAll change.parent_shows
        (change.before ++ change.own.children ++ change.behind) (walk.placement state)
        walk.viewer] at through
      have whole := Ends.group change.get?_result_parent many through
      exact whole
    · exact .group ((change.get?_result_of_ne same).trans found) many after

theorem EndsAll.ungrouped {ids : List NodeId} {state finish : S} (gives : walk.GivesBack kept)
    (acyclic : graph.Acyclic) (change : graph.Ungrouping) :
    walk.EndsAll graph ids state finish → walk.EndsAll change.result ids state finish
  | .nil => .nil
  | .cons first rest =>
    .cons (first.ungrouped gives acyclic change) (rest.ungrouped gives acyclic change)

end

/-- So a recursion that walks comes to the same state. -/
theorem Runs.ungrouped {r : Occurrence → S → S} (runs : walk.Runs r) (gives : walk.GivesBack kept)
    (acyclic : graph.Acyclic) (change : graph.Ungrouping) (id : NodeId) (state : S) :
    r (change.result.unfold (change.result.nodes.size + 1) id) state =
      r (graph.unfold (graph.nodes.size + 1) id) state :=
  (runs.ends_unfold (change.acyclic_result acyclic) id state).unique
    ((runs.ends_unfold acyclic id state).ungrouped gives acyclic change)

/-! ### What the three walks give back -/

theorem placing_givesBack (viewer : Vec3) : (placing viewer).GivesBack Prod.fst where
  meet id kind state still := by
    cases kind with
    | transform | matrixTransform => cases still
    | _ => rfl
  leave _ _ _ := rfl
  enter_open _ _ _ _ _ := rfl
  leave_open _ _ _ _ _ same := Prod.ext same.symm rfl

theorem aiming_givesBack (viewer : Vec3) :
    (aiming viewer).GivesBack fun state => (state.1, state.2.1) where
  meet id kind state still := by
    cases kind with
    | transform | matrixTransform => cases still
    | _ => rfl
  leave _ _ _ := rfl
  enter_open id kind state shows leaks := by
    cases kind with
    | anchor => cases leaks
    | _ => rfl
  leave_open kind state inner _ _ same := by
    obtain ⟨link, matrix⟩ := Prod.mk.inj same
    exact Prod.ext link.symm (Prod.ext matrix.symm rfl)

theorem drawing_givesBack {σ : Type} (host : Host σ) (view : View) :
    (drawing host view).GivesBack fun state => (state.1.transform, state.1.base) where
  meet id kind state still := by
    cases kind with
    | transform | matrixTransform => cases still
    | _ => rfl
  leave kind state inner := by
    simp only [drawing, Properties.leaving]
    split <;> rfl
  enter_open id kind state shows leaks := by
    cases kind with
    | inline => cases leaks
    | _ => rfl
  leave_open kind state inner _ leaks same := by
    obtain ⟨transform, base⟩ := Prod.mk.inj same
    simp only [drawing, Properties.leaving, leaks, ← transform, ← base]
    rfl

end Walk

/-! ### Nothing that is shown changes -/

namespace SceneGraph.Ungrouping

variable {graph : SceneGraph}

theorem placed_result (change : graph.Ungrouping) (acyclic : graph.Acyclic) (viewer : Vec3) :
    change.result.placed viewer = graph.placed viewer := by
  cases isRoot : graph.root with
  | none => simp [SceneGraph.placed, unfolding, isRoot, change.root_result]
  | some root =>
    have same := (Occurrence.runs_place viewer).ungrouped (Walk.placing_givesBack viewer) acyclic
      change root (.identity, [])
    simpa [SceneGraph.placed, unfolding, isRoot, change.root_result, Occurrence.place] using
      congrArg Prod.snd same

theorem targets_result (change : graph.Ungrouping) (acyclic : graph.Acyclic) (viewer : Vec3) :
    change.result.targets viewer = graph.targets viewer := by
  cases isRoot : graph.root with
  | none => simp [SceneGraph.targets, unfolding, isRoot, change.root_result]
  | some root =>
    have same := (Occurrence.runs_aim viewer).ungrouped (Walk.aiming_givesBack viewer) acyclic
      change root (none, .identity, [])
    simpa [SceneGraph.targets, unfolding, isRoot, change.root_result, Occurrence.aim] using
      congrArg (fun state => state.2.2) same

theorem render_result {σ : Type} (change : graph.Ungrouping) (acyclic : graph.Acyclic)
    (renderer : Renderer) (host : Host σ) (state : σ) (camera : Camera) (aspect : Float32) :
    renderer.render host state change.result camera aspect =
      renderer.render host state graph camera aspect := by
  have lights : renderer.lights change.result camera = renderer.lights graph camera := by
    rw [Renderer.lights, Renderer.lights, SceneGraph.lights, SceneGraph.lights,
      change.placed_result acyclic]
  cases isRoot : graph.root with
  | none => simp [Renderer.render, unfolding, isRoot, change.root_result]
  | some root =>
    have same := (Occurrence.runs_visit host
      (renderer.view (renderer.lights graph camera) camera aspect)).ungrouped
      (Walk.drawing_givesBack host _) acyclic change root
      ({ base := graph.base }, { caches := renderer.caches, host := state })
    simp only [Renderer.render, unfolding, isRoot, change.root_result, Option.map_some, lights,
      change.base_result, same]

/-- Whoever lists a group, a transform separator or a switch with all its children shown,
    none of which is a transform, might list these children in its place: for every
    renderer with its caches, every host and every camera the frame is the same, with all
    that is drawn, lit and asked for, and so are the lights, the viewpoints and what any
    ray meets. -/
theorem nothing_changes (acyclic : graph.Acyclic) (change : graph.Ungrouping) :
    (∀ (σ : Type) (renderer : Renderer) (host : Host σ) (state : σ) (camera : Camera)
      (aspect : Float32), renderer.render host state change.result camera aspect =
        renderer.render host state graph camera aspect) ∧
    (∀ viewer, change.result.lights viewer = graph.lights viewer) ∧
    (∀ viewer, change.result.viewpoints viewer = graph.viewpoints viewer) ∧
    ∀ ray viewer, change.result.pickRay ray viewer = graph.pickRay ray viewer := by
  refine ⟨fun σ => change.render_result acyclic, fun viewer => ?_, fun viewer => ?_,
    fun ray viewer => ?_⟩
  · rw [SceneGraph.lights, SceneGraph.lights, change.placed_result acyclic]
  · rw [SceneGraph.viewpoints, SceneGraph.viewpoints, change.placed_result acyclic]
  · rw [pickRay, pickRay, change.targets_result acyclic]

/-- A material in a group, and a cube that it lies on behind the group. -/
def materialInGroup : SceneGraph :=
  { (((empty.insert { kind := .material {} }).insert
      { kind := .group .group, children := [⟨0⟩] }).insert
      { kind := .cube {} }).insert
      { kind := .group .separator, children := [⟨1⟩, ⟨2⟩] } with root := some ⟨3⟩ }

/-- The group around the material is taken away. -/
def groupAroundMaterial : materialInGroup.Ungrouping where
  parent := ⟨3⟩
  list := { kind := .group .separator, children := [⟨1⟩, ⟨2⟩] }
  group := ⟨1⟩
  own := { kind := .group .group, children := [⟨0⟩] }
  before := []
  behind := [⟨2⟩]
  parent_found := by decide
  parent_shows := rfl
  listed := rfl
  group_found := by decide
  group_shows := rfl
  group_leaks := rfl
  still := by decide

/-- The cube has the material in both scenes. -/
theorem nothing_changes_around_material :
    materialInGroup.Acyclic ∧
    groupAroundMaterial.result.children ⟨3⟩ = [⟨0⟩, ⟨2⟩] ∧
    (∀ (σ : Type) (renderer : Renderer) (host : Host σ) (state : σ) (camera : Camera)
      (aspect : Float32),
      renderer.render host state groupAroundMaterial.result camera aspect =
        renderer.render host state materialInGroup camera aspect) ∧
    ∀ ray viewer, groupAroundMaterial.result.pickRay ray viewer =
      materialInGroup.pickRay ray viewer := by
  have older : ∀ index < materialInGroup.nodes.size,
      ∀ child ∈ materialInGroup.children ⟨index⟩, child.index < index := by decide
  have acyclic : materialInGroup.Acyclic := (ranked_index older).acyclic
  obtain ⟨frames, -, -, hits⟩ := nothing_changes acyclic groupAroundMaterial
  exact ⟨acyclic, by decide, frames, hits⟩

end SceneGraph.Ungrouping

end VrmlWorld
