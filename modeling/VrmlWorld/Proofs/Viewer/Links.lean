/-
  VrmlWorld/Proofs/Viewer/Links.lean
  ==================================
  **The link of a hit is the innermost one on the way to what was hit.**

  From the root, ways lead from group to group through the children that are shown
  (`SceneGraph.Leads`). On each way a matrix has added up, and the groups passed are known
  with the matrices that held at them. The targets of a scene are the boxes and balls that
  ways lead to, each with the matrix and the innermost link of its way
  (`SceneGraph.mem_targets_iff`), whichever other ways lead to the same nodes. The walk is
  followed step by step: behind each child, the matrix is that of the siblings passed
  (`Walk.Ends.aims`).
-/
import VrmlWorld.Proofs.Viewer.Nearest
import VrmlWorld.Proofs.Viewer.Walk

namespace VrmlWorld

open VrmlWorld.Geometry

namespace SceneGraph

/-! ### Ways -/

/-- The matrix behind a node: a transform adds to it, and what a group adds goes back on
    leaving the group. -/
def past (graph : SceneGraph) (matrix : Mat4) (id : NodeId) : Mat4 :=
  match graph.kind? id with
  | some (.transform transform) => matrix * transform.matrix
  | some (.matrixTransform own) => matrix * own
  | _ => matrix

/-- A way through shown children leads from the root to this node, and this matrix holds
    there. The way is told by the groups on it, from the root on, with the matrices that
    hold at them. -/
inductive Leads (graph : SceneGraph) (viewer : Vec3) : List Placed → NodeId → Mat4 → Prop where
  | root {root : NodeId} (isRoot : graph.root = some root) : Leads graph viewer [] root .identity
  | child {way : List Placed} {id child : NodeId} {matrix : Mat4} {node : Node}
      {before behind : List NodeId} (leads : Leads graph viewer way id matrix)
      (found : graph.get? id = some node) (many : node.kind.isGroup = true)
      (shown : active node.kind node.children matrix viewer = before ++ child :: behind) :
      Leads graph viewer (way ++ [⟨id, node.kind, matrix⟩]) child (before.foldl graph.past matrix)

end SceneGraph

/-- The innermost link on a way. -/
def LinkFrame.innermost (way : List Placed) : Option LinkFrame :=
  way.foldl (fun link step => inside link step.node step.kind step.matrix) none

namespace LinkFrame

theorem innermost_append (way : List Placed) (step : Placed) :
    innermost (way ++ [step]) = inside (innermost way) step.node step.kind step.matrix := by
  simp [innermost]

theorem inside_of_no_anchor {kind : NodeKind} (noAnchor : ∀ anchor, kind ≠ .anchor anchor)
    (link : Option LinkFrame) (node : NodeId) (matrix : Mat4) :
    inside link node kind matrix = link := by
  cases kind with
  | anchor anchor => exact absurd rfl (noAnchor anchor)
  | _ => rfl

/-- Without a link on the way there is no innermost one; otherwise it is the last one. -/
theorem innermost_cases (way : List Placed) :
    innermost way = none ∧ (∀ step ∈ way, ∀ anchor, step.kind ≠ .anchor anchor) ∨
      ∃ frame above below, innermost way = some frame ∧
        way = above ++ ⟨frame.node, .anchor frame.anchor, frame.matrix⟩ :: below ∧
        ∀ step ∈ below, ∀ anchor, step.kind ≠ .anchor anchor := by
  induction way using List.reverseRecOn with
  | nil => exact .inl ⟨rfl, by simp⟩
  | append_singleton way step ih =>
    rw [innermost_append]
    by_cases noAnchor : ∀ anchor, step.kind ≠ .anchor anchor
    · rw [inside_of_no_anchor noAnchor]
      obtain ⟨outermost, none⟩ | ⟨frame, above, below, isInnermost, rfl, none⟩ := ih
      · exact .inl ⟨outermost, List.forall_mem_append.2
          ⟨none, List.forall_mem_singleton.2 noAnchor⟩⟩
      · exact .inr ⟨frame, above, below ++ [step], isInnermost, by simp,
          List.forall_mem_append.2 ⟨none, List.forall_mem_singleton.2 noAnchor⟩⟩
    · obtain ⟨anchor, isAnchor⟩ := not_forall_not.1 noAnchor
      obtain ⟨node, kind, matrix⟩ := step
      subst isAnchor
      exact .inr ⟨⟨node, anchor, matrix⟩, way, [], rfl, rfl, by simp⟩

theorem point_link (frame : LinkFrame) (point : Vec3) :
    (frame.link point).point =
      if frame.anchor.map = .point then frame.matrix.inverse?.map (·.mapPoint point) else none := by
  rw [link]
  cases frame.anchor.map <;> rfl

theorem isSome_point_link (frame : LinkFrame) (point : Vec3) :
    (frame.link point).point.isSome = true ↔
      frame.anchor.map = .point ∧ frame.matrix.inverse?.isSome = true := by
  rw [point_link]
  by_cases asks : frame.anchor.map = .point <;> simp [asks]

end LinkFrame

theorem Solid.ofKind?_of_isGroup {kind : NodeKind} (many : kind.isGroup = true) :
    ofKind? kind = none := by
  cases kind with
  | cube | sphere => cases many
  | _ => rfl

namespace SceneGraph

variable {graph : SceneGraph} {viewer : Vec3} {way : List Placed} {id : NodeId} {matrix : Mat4}

/-- The groups on a way are groups of the scene, and what the way leads to is below them. -/
theorem Leads.encloses (leads : graph.Leads viewer way id matrix) :
    ∀ step ∈ way, graph.kind? step.node = some step.kind ∧ graph.Below step.node id := by
  induction leads with
  | root => simp
  | @child way id child matrix node before behind leads found many shown ih =>
    have member : child ∈ node.children :=
      (active_sublist node.kind node.children matrix viewer).subset (by simp [shown])
    have step : graph.Child id child := (child_iff_of_get? found).2 member
    refine List.forall_mem_append.2 ⟨fun passed among => ?_, List.forall_mem_singleton.2 ?_⟩
    · exact ⟨(ih passed among).1, (ih passed among).2.tail step⟩
    · exact ⟨congrArg (Option.map Node.kind) found, .single step⟩

theorem Leads.exists_root (leads : graph.Leads viewer way id matrix) :
    ∃ root, graph.root = some root := by
  induction leads with
  | root isRoot => exact ⟨_, isRoot⟩
  | child _ _ _ _ ih => exact ih

/-- A target stands where a way leads to, with the innermost link of the way. -/
def Occurs (graph : SceneGraph) (viewer : Vec3) (target : Target) : Prop :=
  ∃ way, graph.Leads viewer way target.node target.matrix ∧
    (graph.kind? target.node).bind Solid.ofKind? = some target.solid ∧
    target.link = LinkFrame.innermost way

end SceneGraph

namespace Walk

variable {graph : SceneGraph} {viewer : Vec3}

/-- A node that is no group is aimed at if it is a solid, and the matrix behind it is
    the one that holds then. -/
theorem meet_aiming {id : NodeId} {kind : NodeKind} (found : graph.kind? id = some kind)
    (state : Option LinkFrame × Mat4 × List Target) :
    (aiming viewer).meet id kind state =
      (state.1, graph.past state.2.1 id, state.2.2 ++
        ((Solid.ofKind? kind).map fun solid => ⟨id, solid, state.2.1, state.1⟩).toList) := by
  cases kind <;> simp [aiming, SceneGraph.past, found, Solid.ofKind?]

mutual

/-- From where a way leads to, with the innermost link of the way, the walk aims only at
    what ways lead to, and it goes on with the matrix behind the node. -/
theorem Ends.aims {id : NodeId} {way : List Placed}
    {state finish : Option LinkFrame × Mat4 × List Target}
    (leads : graph.Leads viewer way id state.2.1) (link : state.1 = LinkFrame.innermost way) :
    (aiming viewer).Ends graph id state finish →
    ∃ more, finish = (state.1, graph.past state.2.1 id, state.2.2 ++ more) ∧
      ∀ target ∈ more, graph.Occurs viewer target
  | .absent gone => by
    have still : graph.past state.2.1 id = state.2.1 := by
      simp [SceneGraph.past, SceneGraph.kind?, gone]
    exact ⟨[], by simp [still], by simp⟩
  | .leaf found single => by
    have isKind : graph.kind? id = some _ := congrArg (Option.map Node.kind) found
    refine ⟨_, meet_aiming isKind state, fun target member => ?_⟩
    obtain ⟨solid, isSolid, rfl⟩ := Option.map_eq_some_iff.1 (Option.mem_toList.1 member)
    exact ⟨way, leads, by simp [isKind, isSolid], link⟩
  | @Ends.group _ _ _ _ node _ inner found many below => by
    have isKind : graph.kind? id = some node.kind := congrArg (Option.map Node.kind) found
    have still : graph.past state.2.1 id = state.2.1 := by
      rw [SceneGraph.past, isKind]
      cases kind : node.kind with
      | transform | matrixTransform => simp [kind, NodeKind.isGroup] at many
      | _ => rfl
    have inside := Occurrence.enter_aiming viewer id node.kind state
    have innerLink : ((aiming viewer).enter id node.kind state).1 =
        LinkFrame.innermost (way ++ [⟨id, node.kind, state.2.1⟩]) := by
      rw [inside, LinkFrame.innermost_append, link]
    obtain ⟨more, ended, occur⟩ := below.aims
      (fun front child behind shown => by
        rw [inside]
        exact leads.child found many shown) innerLink
    refine ⟨more, ?_, occur⟩
    rw [ended, still, inside]
    rfl

theorem EndsAll.aims {ids : List NodeId} {way : List Placed}
    {state finish : Option LinkFrame × Mat4 × List Target}
    (leads : ∀ front child behind, ids = front ++ child :: behind →
      graph.Leads viewer way child (front.foldl graph.past state.2.1))
    (link : state.1 = LinkFrame.innermost way) :
    (aiming viewer).EndsAll graph ids state finish →
    ∃ more, finish = (state.1, ids.foldl graph.past state.2.1, state.2.2 ++ more) ∧
      ∀ target ∈ more, graph.Occurs viewer target
  | .nil => ⟨[], by simp, by simp⟩
  | @EndsAll.cons _ _ _ id others _ between _ first rest => by
    obtain ⟨more, reached, occur⟩ := first.aims (leads [] id others rfl) link
    obtain ⟨further, ended, occurFurther⟩ := rest.aims
      (fun front child behind split => by
        rw [reached]
        exact leads (id :: front) child behind (by rw [split]; rfl))
      (by rw [reached, link])
    refine ⟨more ++ further, ?_, List.forall_mem_append.2 ⟨occur, occurFurther⟩⟩
    rw [ended, reached]
    simp

end

/-- Among shown children, the walk comes to each one behind those before it, and what it
    has aimed at behind that child stays. -/
theorem EndsAll.exists_ends {front behind : List NodeId} {child : NodeId} {way : List Placed}
    {state finish : Option LinkFrame × Mat4 × List Target}
    (leads : ∀ front' child' behind', front ++ child :: behind = front' ++ child' :: behind' →
      graph.Leads viewer way child' (front'.foldl graph.past state.2.1))
    (link : state.1 = LinkFrame.innermost way)
    (ends : (aiming viewer).EndsAll graph (front ++ child :: behind) state finish) :
    ∃ before after, (aiming viewer).Ends graph child
        (LinkFrame.innermost way, front.foldl graph.past state.2.1, before) after ∧
      after.2.2 <+: finish.2.2 := by
  obtain ⟨between, passed, _ | ⟨atChild, rest⟩⟩ := endsAll_append.1 ends
  obtain ⟨more, rfl, -⟩ := passed.aims
    (fun front' child' behind' split =>
      leads front' child' (behind' ++ child :: behind) (by simp [split])) link
  obtain ⟨own, reached, -⟩ := atChild.aims (leads front child behind rfl) (by exact link)
  obtain ⟨further, ended, -⟩ := rest.aims
    (fun front' child' behind' split => by
      rw [reached]
      simpa using leads (front ++ child :: front') child' behind' (by simp [split]))
    (by rw [reached, link])
  rw [link] at atChild
  exact ⟨_, _, atChild, ended ▸ List.prefix_append _ _⟩

end Walk

namespace SceneGraph

variable {graph : SceneGraph} {viewer : Vec3} {way : List Placed} {id : NodeId} {matrix : Mat4}

/-! ### The targets of a scene -/

/-- Wherever a way leads to, the walk from the root comes, with the innermost link and the
    matrix of the way; and what it has aimed at behind the node stays. -/
theorem Leads.exists_ends (leads : graph.Leads viewer way id matrix) {root : NodeId}
    (isRoot : graph.root = some root) {finish : Option LinkFrame × Mat4 × List Target}
    (ends : (Walk.aiming viewer).Ends graph root (none, .identity, []) finish) :
    ∃ before after, (Walk.aiming viewer).Ends graph id
        (LinkFrame.innermost way, matrix, before) after ∧ after.2.2 <+: finish.2.2 := by
  induction leads with
  | root isRoot' =>
    cases isRoot.symm.trans isRoot'
    exact ⟨[], finish, ends, List.prefix_refl _⟩
  | @child way id child matrix node front behind leads found many shown ih =>
    obtain ⟨before, after, atGroup, stays⟩ := ih
    cases atGroup with
    | absent gone => cases found.symm.trans gone
    | leaf found' single =>
      cases found.symm.trans found'
      cases many.symm.trans single
    | @group _ _ _ inner found' _ below =>
      cases found.symm.trans found'
      rw [Occurrence.enter_aiming, ← LinkFrame.innermost_append way ⟨id, node.kind, matrix⟩] at below
      have shownAll : (Walk.aiming viewer).EndsAll graph (front ++ child :: behind)
          (LinkFrame.innermost (way ++ [⟨id, node.kind, matrix⟩]), matrix, before) inner :=
        shown ▸ below
      obtain ⟨before', after', atChild, stays'⟩ := shownAll.exists_ends
        (fun front' child' behind' split => leads.child found many (shown.trans split)) rfl
      exact ⟨before', after', atChild, stays'.trans stays⟩

/-- The targets of a scene without cycles are all the solids that ways lead to, each with
    the matrix and the innermost link of its way. -/
theorem mem_targets_iff (acyclic : graph.Acyclic) {target : Target} :
    target ∈ graph.targets viewer ↔ graph.Occurs viewer target := by
  cases isRoot : graph.root with
  | none =>
    refine iff_of_false (by simp [targets, unfolding, isRoot]) ?_
    rintro ⟨way, leads, -⟩
    obtain ⟨root, isRoot'⟩ := leads.exists_root
    cases isRoot.symm.trans isRoot'
  | some root =>
    have ends := (Occurrence.runs_aim viewer).ends_unfold acyclic root (none, .identity, [])
    have found : (Occurrence.aim viewer (graph.unfold (graph.nodes.size + 1) root)
        (none, .identity, [])).2.2 = graph.targets viewer := by
      simp [Occurrence.aim, targets, unfolding, isRoot]
    rw [← found]
    constructor
    · obtain ⟨more, ended, occur⟩ := ends.aims (.root isRoot) rfl
      rw [ended]
      exact occur target
    · rintro ⟨way, leads, isSolid, link⟩
      obtain ⟨before, after, atNode, stays⟩ := leads.exists_ends isRoot ends
      refine stays.subset ?_
      obtain ⟨kind, isKind, solid⟩ := Option.bind_eq_some_iff.1 isSolid
      cases atNode with
      | absent gone => simp [kind?, gone] at isKind
      | leaf found single =>
        cases (congrArg (Option.map Node.kind) found).symm.trans isKind
        rw [Walk.meet_aiming isKind]
        simp [solid, ← link]
      | group found many _ =>
        cases (congrArg (Option.map Node.kind) found).symm.trans isKind
        rw [Solid.ofKind?_of_isGroup many] at solid
        cases solid

/-! ### The link of a hit -/

theorem eq_or_eq_of_better {best : Option Candidate} {other answer : Candidate}
    (better : Candidate.better best other = some answer) : best = some answer ∨ other = answer := by
  simp only [Candidate.better] at better
  split at better
  · exact .inl better
  · cases best with
    | none => exact .inr (Option.some.inj better)
    | some found =>
      simp only at better
      split at better
      · exact .inl better
      · exact .inr (Option.some.inj better)

theorem mem_of_foldl_better {candidates : List Candidate} {answer : Candidate}
    (best : candidates.foldl Candidate.better none = some answer) : answer ∈ candidates := by
  induction candidates using List.reverseRecOn with
  | nil => cases best
  | append_singleton candidates other ih =>
    rw [List.foldl_append, List.foldl_cons, List.foldl_nil] at best
    obtain earlier | rfl := eq_or_eq_of_better best
    · exact List.mem_append_left _ (ih earlier)
    · simp

/-- A ray is tried on all solids that ways lead to, and on nothing else. A hit that is
    picked is one on such a solid, and its link is the innermost one on the way; it has
    none if there is none on the way. So the solid is below the link. The link has a point
    if it asks for one and the matrix that holds at it has an inverse. -/
theorem pickRay_opens_innermost_link (acyclic : graph.Acyclic) (viewer : Vec3) :
    (∀ target, target ∈ graph.targets viewer ↔ graph.Occurs viewer target) ∧
    ∀ ray hit, graph.pickRay ray viewer = some hit →
      ∃ way matrix solid inverse own parameter,
        graph.Leads viewer way hit.node matrix ∧
        (graph.kind? hit.node).bind Solid.ofKind? = some solid ∧
        matrix.inverse? = some inverse ∧ ray.mapped? inverse = some own ∧
        solid.meet? own = some parameter ∧
        hit.point = matrix.mapPoint (own.pointAt parameter) ∧
        hit.distance = (hit.point - ray.origin).dot ray.direction ∧
        (hit.anchor = none ↔ ∀ step ∈ way, ∀ anchor, step.kind ≠ .anchor anchor) ∧
        ∀ opens, hit.anchor = some opens → ∃ anchor place above below,
          way = above ++ ⟨opens.node, .anchor anchor, place⟩ :: below ∧
          (∀ step ∈ below, ∀ other, step.kind ≠ .anchor other) ∧
          graph.kind? opens.node = some (.anchor anchor) ∧
          graph.Below opens.node hit.node ∧
          opens.url = anchor.url ∧ opens.description = anchor.description ∧
          opens.point =
            (if anchor.map = .point then place.inverse?.map (·.mapPoint hit.point) else none) ∧
          (opens.point.isSome = true ↔ anchor.map = .point ∧ place.inverse?.isSome = true) := by
  refine ⟨fun target => mem_targets_iff acyclic, fun ray hit picked => ?_⟩
  rw [pickRay_eq, Option.map_eq_some_iff] at picked
  obtain ⟨candidate, best, rfl⟩ := picked
  obtain ⟨target, isTarget, met⟩ := List.mem_filterMap.1 (mem_of_foldl_better best)
  obtain ⟨way, leads, isSolid, link⟩ := (mem_targets_iff acyclic).1 isTarget
  simp only [Target.candidate?, Option.bind_eq_bind, Option.bind_eq_some_iff] at met
  obtain ⟨inverse, isInverse, own, isOwn, parameter, isMet, same⟩ := met
  cases same
  refine ⟨way, target.matrix, target.solid, inverse, own, parameter, leads, isSolid, isInverse,
    isOwn, isMet, rfl, rfl, ?_, ?_⟩
  · rw [Candidate.hit, Option.map_eq_none_iff, link]
    obtain ⟨outermost, noAnchor⟩ | ⟨frame, above, below, isInnermost, rfl, -⟩ :=
      LinkFrame.innermost_cases way
    · exact iff_of_true outermost noAnchor
    · refine iff_of_false (by simp [isInnermost]) fun noAnchor => ?_
      exact noAnchor ⟨frame.node, .anchor frame.anchor, frame.matrix⟩ (by simp) frame.anchor rfl
  · intro opens isLink
    rw [Candidate.hit, link] at isLink
    obtain ⟨frame, isInnermost, rfl⟩ := Option.map_eq_some_iff.1 isLink
    obtain ⟨outermost, -⟩ | ⟨frame', above, below, isInnermost', rfl, last⟩ :=
      LinkFrame.innermost_cases way
    · cases outermost.symm.trans isInnermost
    · cases isInnermost'.symm.trans isInnermost
      obtain ⟨isKind, isBelow⟩ :=
        leads.encloses ⟨frame.node, .anchor frame.anchor, frame.matrix⟩ (by simp)
      exact ⟨frame.anchor, frame.matrix, above, below, rfl, last, isKind, isBelow, rfl, rfl,
        frame.point_link _, frame.isSome_point_link _⟩

/-- A cube in a link that asks for points, inside of another link. -/
def cubeInTwoLinks : SceneGraph :=
  { ((empty.insert { kind := .cube {} }).insert
      { kind := .anchor { url := "inner", map := .point }, children := [⟨0⟩] }).insert
      { kind := .anchor { url := "outer" }, children := [⟨1⟩] } with root := some ⟨2⟩ }

/-- The inner link is opened, with a point, and the cube is below it. -/
theorem pickRay_cubeInTwoLinks :
    ∃ hit opens, cubeInTwoLinks.pickRay ⟨⟨0, 0, 10⟩, ⟨0, 0, -1⟩⟩ .zero = some hit ∧
      hit.node = ⟨0⟩ ∧ hit.anchor = some opens ∧ opens.node = ⟨1⟩ ∧ opens.url = "inner" ∧
      opens.point.isSome = true ∧ cubeInTwoLinks.Below opens.node hit.node := by
  have older : ∀ index < cubeInTwoLinks.nodes.size,
      ∀ child ∈ cubeInTwoLinks.children ⟨index⟩, child.index < index := by decide
  have seen : (cubeInTwoLinks.pickRay ⟨⟨0, 0, 10⟩, ⟨0, 0, -1⟩⟩ .zero).map (fun hit =>
      (hit.node, hit.anchor.map fun opens => (opens.node, opens.url, opens.point.isSome))) =
      some (⟨0⟩, some (⟨1⟩, "inner", true)) := by decide +kernel
  obtain ⟨hit, picked, parts⟩ := Option.map_eq_some_iff.1 seen
  obtain ⟨isCube, isLink⟩ := Prod.mk.inj parts
  obtain ⟨opens, isAnchor, linkParts⟩ := Option.map_eq_some_iff.1 isLink
  obtain ⟨isInner, urlAndPoint⟩ := Prod.mk.inj linkParts
  obtain ⟨url, point⟩ := Prod.mk.inj urlAndPoint
  obtain ⟨way, matrix, solid, inverse, own, parameter, -, -, -, -, -, -, -, -, links⟩ :=
    (pickRay_opens_innermost_link (ranked_index older).acyclic .zero).2 _ _ picked
  obtain ⟨anchor, place, above, below, -, -, -, isBelow, -⟩ := links opens isAnchor
  exact ⟨hit, opens, picked, isCube, isAnchor, isInner, url, point, isBelow⟩

end SceneGraph

end VrmlWorld
