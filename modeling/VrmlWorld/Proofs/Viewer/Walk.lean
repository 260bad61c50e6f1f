/-
  VrmlWorld/Proofs/Viewer/Walk.lean
  =================================
  **Walks by recursion on child identities, and why they end.**

  A walk goes from a node to those of its children that are shown, one after
  the other, with a state that it changes on the way. `Walk.Ends` is its
  evaluation: it follows identities through the stored scene, knows no depth and
  keeps no record of the nodes seen, so a walk that does not end evaluates to
  nothing. The executable walks are recursions on the unfolding of a scene
  (`Walk.Runs`); such a recursion is the evaluation of the walk wherever the
  unfolding is complete (`Walk.Runs.ends_of_unfolds`), and without cycles it is
  complete but for children that are no stored nodes (`Walk.Runs.ends_unfold`).
-/
import VrmlWorld.Proofs.Render.Histories
import VrmlWorld.Proofs.Viewer.Agreement

namespace VrmlWorld

open VrmlWorld.Geometry

/-- What a walk does with its state: at a node that is no group, on entering a
    group, and on leaving it again with the state behind its last child. -/
structure Walk (S : Type) where
  viewer : Vec3
  /-- The matrix that holds in a state. -/
  placement : S → Mat4
  meet : NodeId → NodeKind → S → S
  enter : NodeId → NodeKind → S → S
  leave : NodeKind → S → S → S

namespace Walk

variable {S : Type}

mutual

/-- The walk from a node on, begun in one state, ends in another. -/
inductive Ends (walk : Walk S) (graph : SceneGraph) : NodeId → S → S → Prop where
  | absent {id : NodeId} {state : S} (gone : graph.get? id = none) :
      walk.Ends graph id state state
  | leaf {id : NodeId} {node : Node} {state : S} (found : graph.get? id = some node)
      (single : node.kind.isGroup = false) :
      walk.Ends graph id state (walk.meet id node.kind state)
  | group {id : NodeId} {node : Node} {state inner : S} (found : graph.get? id = some node)
      (many : node.kind.isGroup = true)
      (below : walk.EndsAll graph
        (active node.kind node.children (walk.placement state) walk.viewer)
        (walk.enter id node.kind state) inner) :
      walk.Ends graph id state (walk.leave node.kind state inner)

/-- So does the walk through some nodes, one after the other. -/
inductive EndsAll (walk : Walk S) (graph : SceneGraph) : List NodeId → S → S → Prop where
  | nil {state : S} : walk.EndsAll graph [] state state
  | cons {id : NodeId} {others : List NodeId} {state between finish : S}
      (first : walk.Ends graph id state between)
      (rest : walk.EndsAll graph others between finish) :
      walk.EndsAll graph (id :: others) state finish

end

mutual

/-- A walk from a node on ends in one state only. -/
theorem Ends.unique {walk : Walk S} {graph : SceneGraph} {id : NodeId} {state finish finish' : S} :
    walk.Ends graph id state finish → walk.Ends graph id state finish' → finish = finish'
  | .absent _, .absent _ => rfl
  | .absent gone, .leaf found _ | .absent gone, .group found _ _
  | .leaf found _, .absent gone | .group found _ _, .absent gone =>
    absurd (found.symm.trans gone) (Option.some_ne_none _)
  | .leaf found _, .leaf found' _ => by
    cases found.symm.trans found'
    rfl
  | .leaf found single, .group found' many _ | .group found many _, .leaf found' single => by
    cases found.symm.trans found'
    cases many.symm.trans single
  | .group found _ below, .group found' _ below' => by
    cases found.symm.trans found'
    rw [below.unique below']

theorem EndsAll.unique {walk : Walk S} {graph : SceneGraph} {ids : List NodeId}
    {state finish finish' : S} :
    walk.EndsAll graph ids state finish → walk.EndsAll graph ids state finish' → finish = finish'
  | .nil, .nil => rfl
  | .cons first rest, .cons first' rest' => by
    cases first.unique first'
    exact rest.unique rest'

end

theorem endsAll_append {walk : Walk S} {graph : SceneGraph} {ids others : List NodeId}
    {state finish : S} : walk.EndsAll graph (ids ++ others) state finish ↔
    ∃ between, walk.EndsAll graph ids state between ∧ walk.EndsAll graph others between finish := by
  induction ids generalizing state with
  | nil =>
    refine ⟨fun ends => ⟨state, .nil, ends⟩, ?_⟩
    rintro ⟨between, ⟨⟩, ends⟩
    exact ends
  | cons id ids ih =>
    constructor
    · rintro (_ | ⟨first, rest⟩)
      obtain ⟨between, front, back⟩ := ih.1 rest
      exact ⟨between, .cons first front, back⟩
    · rintro ⟨between, _ | ⟨first, front⟩, back⟩
      exact .cons first (ih.2 ⟨between, front, back⟩)

/-! ### Recursions that walk -/

/-- A recursion on occurrences treats single nodes and groups as a walk does. -/
structure Runs (walk : Walk S) (r : Occurrence → S → S) : Prop where
  absent : ∀ id state, r (.absent id) state = state
  single : ∀ id kind arity child state, kind.isGroup = false →
    r (.node id kind arity child) state = walk.meet id kind state
  many : ∀ id kind arity child state, kind.isGroup = true →
    r (.node id kind arity child) state =
      walk.leave kind state
        ((Occurrence.shown kind arity (walk.placement state) walk.viewer).foldl
          (fun state position => r (child position) state) (walk.enter id kind state))

section Runs

variable {walk : Walk S} {r : Occurrence → S → S} {graph : SceneGraph} {id : NodeId}

/-- At one node, the recursion is the evaluation of the walk if it is for the children. -/
theorem Runs.ends_node (runs : walk.Runs r) {node : Node} (found : graph.get? id = some node)
    {child : Fin node.children.toArray.size → Occurrence}
    (below : ∀ index (within : index < node.children.toArray.size) (state : S),
      walk.Ends graph node.children.toArray[index] state (r (child ⟨index, within⟩) state))
    (state : S) :
    walk.Ends graph id state (r (.node id node.kind node.children.toArray.size child) state) := by
  cases group : node.kind.isGroup with
  | false =>
    rw [runs.single _ _ _ _ _ group]
    exact .leaf found group
  | true =>
    rw [runs.many _ _ _ _ _ group]
    refine .group found group ?_
    rw [active_eq_map_shown]
    generalize Occurrence.shown node.kind node.children.toArray.size (walk.placement state)
      walk.viewer = positions
    generalize walk.enter id node.kind state = inner
    induction positions generalizing inner with
    | nil => exact .nil
    | cons position positions rest =>
      exact .cons (below position.1 position.2 inner) (rest _)

theorem Runs.ends_of_unfolds (runs : walk.Runs r) {occurrence : Occurrence}
    (unfolds : graph.Unfolds id occurrence) (state : S) :
    walk.Ends graph id state (r occurrence state) := by
  induction unfolds generalizing state with
  | node found below ih =>
    exact runs.ends_node found ih state

/-- Without cycles, the walk ends from every identity on, stored or not. -/
theorem Runs.ends_of_acyclic (runs : walk.Runs r) (acyclic : graph.Acyclic) {depth : Nat}
    (deep : graph.Stored id → graph.descent id < depth) (state : S) :
    walk.Ends graph id state (r (graph.unfold depth id) state) := by
  induction depth generalizing id state with
  | zero =>
    have gone : graph.get? id = none :=
      Option.eq_none_iff_forall_ne_some.2 fun node found =>
        Nat.not_lt_zero _ (deep ⟨node, found⟩)
    rw [SceneGraph.unfold, runs.absent]
    exact .absent gone
  | succ depth ih =>
    rw [SceneGraph.unfold]
    cases found : graph.get? id with
    | none =>
      rw [runs.absent]
      exact .absent found
    | some node =>
      refine runs.ends_node found (fun index within state => ih (fun stored => ?_) state) state
      have lower := acyclic.descent_lt (SceneGraph.child_of_position found within) stored
      have bound := deep ⟨node, found⟩
      omega

/-- The depth to which a scene unfolds is enough, so the walk ends in the state that the
    recursion gives there. -/
theorem Runs.ends_unfold (runs : walk.Runs r) (acyclic : graph.Acyclic) (id : NodeId) (state : S) :
    walk.Ends graph id state (r (graph.unfold (graph.nodes.size + 1) id) state) :=
  runs.ends_of_acyclic acyclic
    (fun stored => (acyclic.descent_lt_size stored).trans (Nat.lt_succ_self _)) state

end Runs

/-! ### The three walks -/

/-- The walk that places nodes; the state is the matrix and what is placed. -/
def placing (viewer : Vec3) : Walk (Mat4 × List Placed) where
  viewer
  placement state := state.1
  meet id kind state :=
    match kind with
    | .transform transform => (state.1 * transform.matrix, state.2)
    | .matrixTransform own => (state.1 * own, state.2)
    | _ => (state.1, state.2 ++ [⟨id, kind, state.1⟩])
  enter _ _ state := state
  leave _ state inner := (state.1, inner.2)

/-- The walk that looks for targets of a ray; the link around the node is part
    of the state. -/
def aiming (viewer : Vec3) : Walk (Option LinkFrame × Mat4 × List Target) where
  viewer
  placement state := state.2.1
  meet id kind state :=
    let (link, matrix, found) := state
    match kind with
    | .transform transform => (link, matrix * transform.matrix, found)
    | .matrixTransform own => (link, matrix * own, found)
    | .cube cube =>
        (link, matrix, found ++ [⟨id, .box (.ofHalfExtents cube.halfExtents), matrix, link⟩])
    | .sphere sphere => (link, matrix, found ++ [⟨id, .ball ⟨.zero, sphere.radius⟩, matrix, link⟩])
    | _ => state
  enter id kind state :=
    match kind with
    | .anchor anchor => (some ⟨id, anchor, state.2.1⟩, state.2)
    | _ => state
  leave _ state inner := (state.1, state.2.1, inner.2.2)

/-- The walk that draws. A group that is shut is entered in the same way, but
    has no children to show. -/
def drawing {σ : Type} (host : Host σ) (view : View) : Walk (Properties × Pass σ) where
  viewer := view.viewer
  placement state := state.1.transform
  meet id kind state := state.2.meet host view state.1 id kind
  enter id kind state :=
    ((state.1.entering? kind).getD state.1, state.2.shut state.1 id kind)
  leave kind state inner := (state.1.leaving kind inner.1, inner.2)

end Walk

/-! ### Executable walks are evaluations -/

namespace Occurrence

variable {graph : SceneGraph} {id : NodeId} {occurrence : Occurrence}

/-- Adds the placements from an occurrence on to those found before. -/
def place (viewer : Vec3) (occurrence : Occurrence) (state : Mat4 × List Placed) :
    Mat4 × List Placed :=
  ((occurrence.placements viewer state.1).1, state.2 ++ (occurrence.placements viewer state.1).2)

theorem runs_place (viewer : Vec3) : (Walk.placing viewer).Runs (place viewer) where
  absent id state := by simp [place, placements]
  single id kind arity child state single := by
    cases kind with
    | group | switch | lod | anchor | inline => cases single
    | _ => simp [place, placements, Walk.placing, NodeKind.isGroup]
  many id kind arity child state many := by
    have reached := foldl_eq_trail (fun position => (child position).placements viewer)
      (shown kind arity state.1 viewer) state.1 state.2
    simp only [place, placements_group viewer many, Walk.placing, reached]

theorem placing_ends (viewer : Vec3) (unfolds : graph.Unfolds id occurrence)
    (matrix : Mat4) (before : List Placed) :
    (Walk.placing viewer).Ends graph id (matrix, before)
      ((occurrence.placements viewer matrix).1,
        before ++ (occurrence.placements viewer matrix).2) :=
  (runs_place viewer).ends_of_unfolds unfolds (matrix, before)

/-- Adds the targets from an occurrence on to those found before. -/
def aim (viewer : Vec3) (occurrence : Occurrence) (state : Option LinkFrame × Mat4 × List Target) :
    Option LinkFrame × Mat4 × List Target :=
  (state.1, (occurrence.targets viewer state.1 state.2.1).1,
    state.2.2 ++ (occurrence.targets viewer state.1 state.2.1).2)

/-- The link does not change on the way, so it is no part of what is folded. -/
theorem foldl_aim (viewer : Vec3) (link : Option LinkFrame) {arity : Nat}
    (child : Fin arity → Occurrence) (positions : List (Fin arity)) (matrix : Mat4)
    (found : List Target) :
    positions.foldl (fun state position => (child position).aim viewer state)
        (link, matrix, found) =
      (link, positions.foldl
        (fun (state : Mat4 × List Target) position =>
          (((child position).targets viewer link state.1).1,
            state.2 ++ ((child position).targets viewer link state.1).2)) (matrix, found)) := by
  induction positions generalizing matrix found with
  | nil => rfl
  | cons position positions ih =>
    rw [List.foldl_cons, List.foldl_cons]
    exact ih _ _

theorem enter_aiming (viewer : Vec3) (id : NodeId) (kind : NodeKind)
    (state : Option LinkFrame × Mat4 × List Target) :
    (Walk.aiming viewer).enter id kind state =
      (LinkFrame.inside state.1 id kind state.2.1, state.2) := by
  cases kind <;> rfl

theorem runs_aim (viewer : Vec3) : (Walk.aiming viewer).Runs (aim viewer) where
  absent id state := by simp [aim, targets]
  single id kind arity child state single := by
    cases kind with
    | group | switch | lod | anchor | inline => cases single
    | _ => simp [aim, targets, Walk.aiming, NodeKind.isGroup, Solid.ofKind?]
  many id kind arity child state many := by
    obtain ⟨link, matrix, before⟩ := state
    have reached := foldl_eq_trail
      (fun position => (child position).targets viewer (LinkFrame.inside link id kind matrix))
      (shown kind arity matrix viewer) matrix before
    rw [enter_aiming, foldl_aim]
    simp only [aim, targets_group viewer many, Walk.aiming, reached]

theorem aiming_ends (viewer : Vec3) (unfolds : graph.Unfolds id occurrence)
    (link : Option LinkFrame) (matrix : Mat4) (before : List Target) :
    (Walk.aiming viewer).Ends graph id (link, matrix, before)
      (link, (occurrence.targets viewer link matrix).1,
        before ++ (occurrence.targets viewer link matrix).2) :=
  (runs_aim viewer).ends_of_unfolds unfolds (link, matrix, before)

theorem runs_visit {σ : Type} (host : Host σ) (view : View) :
    (Walk.drawing host view).Runs (visit host view) where
  absent id state := by simp [visit]
  single id kind arity child state single := by
    obtain ⟨properties, pass⟩ := state
    simp [visit, Walk.drawing, single]
  many id kind arity child state many := by
    obtain ⟨properties, pass⟩ := state
    cases entering : properties.entering? kind with
    | none =>
      cases kind with
      | inline inline =>
        have shut : ¬ inline.status = .loaded := by simpa [Properties.entering?] using entering
        simp [visit, Walk.drawing, many, entering, shown, active, shut, Properties.leaving,
          NodeKind.restoresState]
      | _ => simp [Properties.entering?] at entering
    | some inner =>
      have unchanged := Pass.shut_of_entering? entering pass id
      simp [visit, Walk.drawing, many, entering, unchanged]

theorem drawing_ends {σ : Type} (host : Host σ) (view : View) (unfolds : graph.Unfolds id occurrence)
    (state : Properties × Pass σ) :
    (Walk.drawing host view).Ends graph id state (occurrence.visit host view state) :=
  (runs_visit host view).ends_of_unfolds unfolds state

end Occurrence

end VrmlWorld
