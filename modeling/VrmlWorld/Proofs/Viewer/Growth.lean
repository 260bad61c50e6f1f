/-
  VrmlWorld/Proofs/Viewer/Growth.lean
  ===================================
  **What stands in a scene goes on standing there.**

  Within a session a scene changes only at inlines that show nothing yet. So the
  scene of a later stage has all the nodes of the earlier one in their places and
  in their order, with those of the new documents in between
  (`SceneGraph.Extends.viewpoints_sublist`). What a level of detail shows depends
  on the viewer, so two viewers can be compared only where there is none.
-/
import VrmlWorld.Proofs.Render.Leaks
import VrmlWorld.Proofs.Viewer.Agreement
import VrmlWorld.Proofs.Viewer.Settling

namespace VrmlWorld

open VrmlWorld.Geometry

/-- Trails through the same members, of which one finds more at each. -/
theorem trail_sublist {α β S : Type} {go go' : α → S → S} {out out' : α → S → List β}
    (members : List α)
    (step : ∀ a ∈ members, ∀ state, go a state = go' a state ∧ (out a state).Sublist (out' a state))
    (state : S) : (trail go out members state).Sublist (trail go' out' members state) := by
  induction members generalizing state with
  | nil => exact .slnil
  | cons a others ih =>
    obtain ⟨first, rest⟩ := List.forall_mem_cons.1 step
    obtain ⟨same, more⟩ := first state
    rw [trail, trail, ← same]
    exact more.append (ih rest (go a state))

theorem Occurrence.placements_single_congr {kind : NodeKind} (single : kind.isGroup = false)
    {id : NodeId} {arity arity' : Nat} {child : Fin arity → Occurrence}
    {child' : Fin arity' → Occurrence} {viewer viewer' : Vec3} {matrix : Mat4} :
    (node id kind arity child).placements viewer matrix =
      (node id kind arity' child').placements viewer' matrix := by
  cases kind with
  | group | switch | lod | anchor | inline => cases single
  | _ => simp [placements, NodeKind.isGroup]

/-- Whether a node of this kind is an inline that shows nothing. -/
def NodeKind.isShut : NodeKind → Bool
  | .inline shown => shown.status != .loaded
  | _ => false

theorem NodeKind.exists_inline_of_isShut {kind : NodeKind} (shut : kind.isShut = true) :
    ∃ inline, kind = .inline inline ∧ inline.status ≠ .loaded := by
  cases kind with
  | inline inline => exact ⟨inline, rfl, by simpa [isShut] using shut⟩
  | _ => cases shut

namespace SceneGraph

variable {graph loaded result further : SceneGraph} {id : NodeId} {viewer viewer' : Vec3}

/-- A later stage of a scene: of its nodes only such inlines have changed as showed
    nothing, and they are inlines still. -/
structure Extends (graph result : SceneGraph) : Prop where
  root_eq : result.root = graph.root
  stays : ∀ id node, graph.get? id = some node → ∃ later, result.get? id = some later ∧
    (later = node ∨ node.kind.isShut = true ∧ ∃ inline, later.kind = .inline inline)

namespace Extends

theorem refl (graph : SceneGraph) : graph.Extends graph where
  root_eq := rfl
  stays _ node found := ⟨node, found, .inl rfl⟩

theorem trans (first : graph.Extends result) (second : result.Extends further) :
    graph.Extends further where
  root_eq := second.root_eq.trans first.root_eq
  stays := by
    intro id node found
    obtain ⟨later, foundLater, same | ⟨shut, inline, kind⟩⟩ := first.stays id node found
    · exact same ▸ second.stays id later foundLater
    · obtain ⟨last, foundLast, rfl | ⟨-, inline', kind'⟩⟩ := second.stays id later foundLater
      · exact ⟨last, foundLast, .inr ⟨shut, inline, kind⟩⟩
      · exact ⟨last, foundLast, .inr ⟨shut, inline', kind'⟩⟩

/-- A change at an inline that shows nothing. -/
theorem of_status {old : InlineStatus} (status : graph.status? id = some old)
    (shut : old ≠ .loaded) (root_eq : result.root = graph.root)
    (inline : ∃ later inline, result.get? id = some later ∧ later.kind = .inline inline)
    (others : ∀ other, graph.Stored other → other ≠ id → result.get? other = graph.get? other) :
    graph.Extends result where
  root_eq := root_eq
  stays := by
    intro other node found
    by_cases same : other = id
    · subst same
      obtain ⟨later, inline, foundLater, kindLater⟩ := inline
      obtain ⟨node', inline', found', kind, rfl⟩ := status?_eq_some_iff.1 status
      obtain rfl := Option.some.inj (found.symm.trans found')
      have isShut : node.kind.isShut = true := by simpa [kind, NodeKind.isShut] using shut
      exact ⟨later, foundLater, .inr ⟨isShut, inline, kindLater⟩⟩
    · rw [others other ⟨node, found⟩ same]
      exact ⟨node, found, .inl rfl⟩

theorem setInlineStatus (graph : SceneGraph) {old : InlineStatus}
    (status : graph.status? id = some old) (shut : old ≠ .loaded) (new : InlineStatus) :
    graph.Extends ((graph.setInlineStatus? id new).getD graph) := by
  obtain ⟨result, set⟩ := setInlineStatus?_of_status? status new
  obtain ⟨node, -, found, -⟩ := status?_eq_some_iff.1 status
  rw [set, Option.getD_some]
  obtain ⟨inline, -, rfl⟩ := setInlineStatus?_eq_some set
  refine of_status status shut rfl ⟨_, { inline with status := new }, by simp [found]; rfl, rfl⟩ ?_
  intro other _ different
  simp [different]

theorem splice {old : InlineStatus} {location : Location} (status : graph.status? id = some old)
    (shut : old ≠ .loaded) (h : graph.splice? id loaded location = some result) :
    graph.Extends result := by
  obtain ⟨inline, -, spliced⟩ := splice?_eq_some h
  obtain ⟨node, -, found, -⟩ := status?_eq_some_iff.1 status
  have filled := spliced.get?_inline
  rw [found] at filled
  refine of_status status shut spliced.root_eq ⟨_, _, filled, rfl⟩ ?_
  intro other stored different
  exact spliced.get?_other other stored.lt_size different

end Extends

/-! ### Placements -/

theorem placements_unfold_group {node : Node} (found : graph.get? id = some node)
    (group : node.kind.isGroup = true) (depth : Nat) (viewer : Vec3) (matrix : Mat4) :
    (graph.unfold (depth + 1) id).placements viewer matrix =
      (matrix,
        trail (fun child matrix => ((graph.unfold depth child).placements viewer matrix).1)
          (fun child matrix => ((graph.unfold depth child).placements viewer matrix).2)
          (active node.kind node.children matrix viewer) matrix) := by
  rw [active_eq_map_shown, trail_map]
  simp only [unfold, found, Occurrence.placements_group viewer group]
  rfl

/-- No stored node is a level of detail. -/
def LodFree (graph : SceneGraph) : Prop :=
  ∀ id node, graph.get? id = some node → node.kind.isLod = false

theorem LodFree.of_extends (free : result.LodFree) (growth : graph.Extends result) :
    graph.LodFree := by
  intro id node found
  obtain ⟨later, foundLater, rfl | ⟨shut, -⟩⟩ := growth.stays id node found
  · exact free id later foundLater
  · obtain ⟨inline, kind, -⟩ := NodeKind.exists_inline_of_isShut shut
    rw [kind]
    rfl

/-- The induction is on the depth: a node that has stayed shows the same children to
    both viewers, and an inline that has been filled showed none before. -/
theorem Extends.placements (growth : graph.Extends result)
    (alike : viewer = viewer' ∨ graph.LodFree) (depth : Nat) {id : NodeId}
    (stored : graph.Stored id)
    (closed : ∀ parent child, graph.Child parent child → graph.Stored child)
    (matrix : Mat4) :
    ((graph.unfold depth id).placements viewer matrix).1 =
        ((result.unfold depth id).placements viewer' matrix).1 ∧
      ((graph.unfold depth id).placements viewer matrix).2.Sublist
        ((result.unfold depth id).placements viewer' matrix).2 := by
  induction depth generalizing id matrix with
  | zero => exact ⟨rfl, .refl _⟩
  | succ depth ih =>
    obtain ⟨node, found⟩ := stored
    obtain ⟨later, foundLater, rfl | ⟨shut, inline, kindLater⟩⟩ := growth.stays id node found
    · cases group : later.kind.isGroup with
      | false =>
        simp only [unfold, found, foundLater]
        rw [Occurrence.placements_single_congr group]
        exact ⟨rfl, .refl _⟩
      | true =>
        rw [placements_unfold_group found group, placements_unfold_group foundLater group]
        have sameActive : active later.kind later.children matrix viewer =
            active later.kind later.children matrix viewer' := by
          rcases alike with rfl | free
          · rfl
          · exact Occurrence.active_of_not_isLod (free id later found) ..
        refine ⟨rfl, sameActive ▸ trail_sublist _ ?_ matrix⟩
        intro child among matrix
        have isChild : graph.Child id child :=
          (child_iff_of_get? found).2 ((active_sublist _ _ _ _).subset among)
        exact ih (closed id child isChild) matrix
    · obtain ⟨inline', kind, not_loaded⟩ := NodeKind.exists_inline_of_isShut shut
      have group : node.kind.isGroup = true := by
        rw [kind]
        rfl
      have groupLater : later.kind.isGroup = true := by
        rw [kindLater]
        rfl
      have hidden : active node.kind node.children matrix viewer = [] := by
        rw [kind]
        exact if_neg not_loaded
      rw [placements_unfold_group found group, placements_unfold_group foundLater groupLater,
        hidden]
      exact ⟨rfl, List.nil_sublist _⟩

/-- The viewpoints of a scene stay in their order, as long as the viewer stays where
    it is or there are no levels of detail. -/
theorem Extends.viewpoints_sublist (growth : graph.Extends result)
    (wellFormed : graph.WellFormed) (wellFormed' : result.WellFormed)
    (alike : viewer = viewer' ∨ graph.LodFree) :
    (graph.viewpoints viewer).Sublist (result.viewpoints viewer') := by
  rw [viewpoints, viewpoints]
  refine List.Sublist.filterMap _ ?_
  rw [placed, placed, unfolding, unfolding, growth.root_eq]
  cases isRoot : graph.root with
  | none => exact .refl _
  | some root =>
    have stored := wellFormed.root_stored root isRoot
    have stored' := wellFormed'.root_stored root (growth.root_eq.trans isRoot)
    dsimp only [Option.map_some]
    let depth := max graph.nodes.size result.nodes.size
    have whole : graph.unfold depth root = graph.unfold (graph.nodes.size + 1) root :=
      wellFormed.unfold_eq stored (le_max_left _ _)
    have whole' : result.unfold depth root = result.unfold (result.nodes.size + 1) root :=
      wellFormed'.unfold_eq stored' (le_max_right _ _)
    rw [← whole, ← whole']
    exact (growth.placements alike depth stored wellFormed.children_stored .identity).2

end SceneGraph

/-! ### How frames change a scene -/

namespace Session.Within

variable {σ : Type} {origin session : Session σ} {sent : List Event} {asked : List NodeId}

theorem growth_publish {result : FetchResult} {others : List NodeId}
    (within : origin.Within sent asked (result.fetch.request.node :: others) session) :
    session.graph.Extends (session.publish result).2.graph := by
  obtain ⟨new, -, accounts⟩ := within.events
  have loading := (accounts.mem_outstanding _).1 (List.mem_cons_self ..)
  rw [Session.publish]
  split
  · split
    · rename_i spliced
      exact .splice loading (by simp) spliced
    · exact .refl _
  · exact .setInlineStatus _ loading (by simp) .failed

theorem growth_foldl_publish (results : List FetchResult) {others : List NodeId}
    (within : origin.Within sent asked (results.map (·.fetch.request.node) ++ others) session)
    (read : ∀ result ∈ results, ∀ loaded, result.outcome = .ok loaded → loaded.AsRead)
    (any : Bool) :
    session.graph.Extends (results.foldl
      (fun (reached : Bool × Session σ) result =>
        (reached.1 || (reached.2.publish result).1, (reached.2.publish result).2))
      (any, session)).2.graph := by
  induction results generalizing session any with
  | nil => exact .refl _
  | cons result results ih =>
    have first := within.publish (read result (by simp))
    exact within.growth_publish.trans
      (ih first (fun other member => read other (by simp [member])) _)

end Session.Within

namespace Session.Balanced

variable {σ : Type} {origin session : Session σ} {sent : List Event} {asked : List NodeId}
  {id : NodeId}

theorem growth_published (balanced : origin.Balanced sent asked session) :
    session.graph.Extends session.published.2.graph ∧ session.published.2.graph.Regular := by
  have polled : origin.Within sent asked
      (session.loader.poll.1.map (·.fetch.request.node) ++ session.loader.poll.2.outstanding)
      { session with loader := session.loader.poll.2 } := by
    rw [← InlineLoader.outstanding_eq_poll]
    exact balanced.within.congr rfl rfl
  have read : ∀ result ∈ session.loader.poll.1, ∀ loaded, result.outcome = .ok loaded →
      loaded.AsRead :=
    fun result member loaded => balanced.sound.asRead_of_mem_poll member
  exact ⟨polled.growth_foldl_publish _ read false,
    (polled.foldl_publish _ read false).1.regular⟩

theorem growth_requestInline (balanced : origin.Balanced sent asked session)
    (refusal : InlineRequest → Option AssetError) {request : InlineRequest}
    (pending : session.graph.status? request.node = some .pending) :
    session.graph.Extends (session.requestInline refusal request).graph := by
  have asked := SceneGraph.Extends.setInlineStatus session.graph pending (by simp) .loading
  obtain ⟨graph, set⟩ := SceneGraph.setInlineStatus?_of_status? pending .loading
  have loading := (balanced.within.regular.advances_setInlineStatus? set).self
  rw [Session.requestInline]
  cases refusal request with
  | none => exact asked
  | some error =>
    rw [set, Option.getD_some] at asked ⊢
    exact asked.trans (.setInlineStatus graph loading (by simp) .failed)

theorem growth_foldl_requestInline (balanced : origin.Balanced sent asked session)
    (refusal : InlineRequest → Option AssetError) (requests : List InlineRequest)
    (nodup : (requests.map (·.node)).Nodup)
    (pending : ∀ id ∈ requests.map (·.node), session.graph.status? id = some .pending) :
    session.graph.Extends (requests.foldl (Session.requestInline refusal) session).graph := by
  induction requests generalizing session asked with
  | nil => exact .refl _
  | cons request requests ih =>
    obtain ⟨apart, nodup⟩ := List.nodup_cons.1 nodup
    have here := pending request.node (by simp)
    refine (balanced.growth_requestInline refusal here).trans
      (ih (balanced.requestInline refusal here) nodup ?_)
    intro id member
    rw [status?_requestInline_of_ne session refusal (ne_of_mem_of_not_mem member apart)]
    exact pending id (by simp [member])

theorem growth_foldl_failInline (reason : String) (ids : List NodeId) (nodup : ids.Nodup)
    (session : Session σ) (pending : ∀ id ∈ ids, session.graph.status? id = some .pending) :
    session.graph.Extends (ids.foldl (·.failInline · reason) session).graph := by
  induction ids generalizing session with
  | nil => exact .refl _
  | cons id ids ih =>
    obtain ⟨apart, nodup⟩ := List.nodup_cons.1 nodup
    have failed : session.graph.Extends (session.failInline id reason).graph :=
      .setInlineStatus _ (pending id (by simp)) (by simp) .failed
    refine failed.trans (ih nodup _ ?_)
    intro other member
    rw [Session.failInline]
    exact (session.graph.status?_setInlineStatus?_of_ne (ne_of_mem_of_not_mem member apart)
      .failed).trans (pending other (by simp [member]))

theorem growth_frame (balanced : origin.Balanced sent asked session) (viewport : Vec2)
    (refusal : InlineRequest → Option AssetError) :
    session.published.2.graph.Extends (session.frame viewport refusal).2.graph := by
  have same : session.publishAll.graph = session.published.2.graph := by
    rw [publishAll_eq]
    split
    · dsimp only
      split
      · rw [(scene_setViewpoint _ 0).1, (scene_refreshViewpoints _ false).1]
      · rw [(scene_refreshViewpoints _ false).1]
    · rfl
  obtain ⟨frame, drawn, performed, sameGraph, drawnBalanced, lists⟩ :=
    balanced.frame_parts viewport refusal
  obtain ⟨requests, nodes, apart⟩ := List.nodup_append.1 lists.nodup
  have pending : ∀ id ∈ frame.pending.toList.map (·.node),
      drawn.graph.status? id = some .pending :=
    fun id member => lists.pending id (List.mem_append_left _ member)
  have asked := drawnBalanced.growth_foldl_requestInline refusal _ requests pending
  obtain ⟨-, others⟩ := drawnBalanced.foldl_requestInline refusal _ requests pending
  rw [← same, ← sameGraph, performed]
  refine asked.trans (growth_foldl_failInline _ _ nodes _ ?_)
  intro id member
  have different : id ∉ frame.pending.toList.map (·.node) := fun listed =>
    apart id listed id member rfl
  rw [others id different]
  exact lists.pending id (List.mem_append_right _ member)

end Session.Balanced

end VrmlWorld
