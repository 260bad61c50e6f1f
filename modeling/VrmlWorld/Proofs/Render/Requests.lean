/-
  VrmlWorld/Proofs/Render/Requests.lean
  =====================================
  **What a frame asks for.**

  Wherever a drawing walk goes, it lists only inlines that are pending in the
  scene it walks through, and an inline that is used in many places once. A walk
  does not change the scene, so the statuses are those that the frame was
  started with.
-/
import VrmlWorld.Proofs.Render.Visits
import VrmlWorld.Proofs.Scene.Progress

namespace VrmlWorld

namespace Frame

variable {frame : Frame} {node : NodeId} {graph : SceneGraph}

/-- The inlines that a frame lists, those whose references lead nowhere last. -/
def listed (frame : Frame) : List NodeId :=
  frame.pending.toList.map (·.node) ++ frame.unresolved.toList

/-- Each inline is listed once, and all of them are pending. -/
structure ListsPending (frame : Frame) (graph : SceneGraph) : Prop where
  nodup : frame.listed.Nodup
  pending : ∀ id ∈ frame.listed, graph.status? id = some .pending

theorem listsPending_empty (graph : SceneGraph) : ({} : Frame).ListsPending graph :=
  ⟨List.nodup_nil, fun _ member => nomatch member⟩

theorem listed_add (frame : Frame) (draw : Option Draw) :
    (frame.add draw).listed = frame.listed := by
  cases draw <;> rfl

theorem any_pending_or_contains_unresolved (frame : Frame) (node : NodeId) :
    (frame.pending.any (·.node == node) || frame.unresolved.contains node) = true ↔
      node ∈ frame.listed := by
  rw [Bool.or_eq_true, Array.any_eq_true', Array.contains_iff_mem, listed, List.mem_append,
    List.mem_map, Array.mem_toList_iff]
  simp

theorem request_of_mem (h : node ∈ frame.listed) (url : String) (base : Option Location) :
    frame.request node url base = frame := by
  rw [request, if_pos ((frame.any_pending_or_contains_unresolved node).2 h)]

/-- An inline that is new to a frame is asked for where its reference leads, or listed
    as one that leads nowhere. -/
theorem request_of_not_mem (h : node ∉ frame.listed) (url : String) (base : Option Location) :
    frame.request node url base =
      match Location.resolve base url with
      | .ok location => { frame with pending := frame.pending.push ⟨node, location⟩ }
      | .error _ => { frame with unresolved := frame.unresolved.push node } :=
  if_neg (mt (frame.any_pending_or_contains_unresolved node).1 h)

theorem listed_request_of_not_mem (h : node ∉ frame.listed) (url : String)
    (base : Option Location) :
    (frame.request node url base).listed.Perm (node :: frame.listed) := by
  rw [request_of_not_mem h]
  cases Location.resolve base url with
  | ok location => simp [listed]
  | error error => simp [listed, ← List.append_assoc, List.perm_append_singleton]

theorem mem_pending_request (h : node ∉ frame.listed) (url : String) (base : Option Location)
    (other : InlineRequest) :
    other ∈ (frame.request node url base).pending ↔ other ∈ frame.pending ∨
      other.node = node ∧ Location.resolve base url = .ok other.location := by
  rw [request_of_not_mem h]
  obtain ⟨id, place⟩ := other
  cases Location.resolve base url with
  | ok location => simp [eq_comm]
  | error error => simp

theorem mem_unresolved_request (h : node ∉ frame.listed) (url : String) (base : Option Location)
    (id : NodeId) :
    id ∈ (frame.request node url base).unresolved ↔ id ∈ frame.unresolved ∨
      id = node ∧ ∃ error, Location.resolve base url = .error error := by
  rw [request_of_not_mem h]
  cases Location.resolve base url with
  | ok location => simp
  | error error => simp

theorem ListsPending.request (lists : frame.ListsPending graph)
    (pending : graph.status? node = some .pending) (url : String) (base : Option Location) :
    (frame.request node url base).ListsPending graph := by
  by_cases member : node ∈ frame.listed
  · rw [request_of_mem member]
    exact lists
  · have perm := listed_request_of_not_mem member url base
    refine ⟨perm.nodup_iff.2 (List.nodup_cons.2 ⟨member, lists.nodup⟩), ?_⟩
    intro id listed
    obtain rfl | old := List.mem_cons.1 (perm.mem_iff.1 listed)
    · exact pending
    · exact lists.pending id old

end Frame

namespace SceneGraph

variable {σ : Type} {graph : SceneGraph}

/-- The induction is on the depth of the unfolding: at each node its kind is
    that of the stored node, so a shut inline has the status that the scene
    records. -/
theorem listsPending_visit (host : Host σ) (view : View) (depth : Nat) (id : NodeId)
    (state : Properties × Pass σ) (lists : state.2.frame.ListsPending graph) :
    ((graph.unfold depth id).visit host view state).2.frame.ListsPending graph := by
  induction depth generalizing id state with
  | zero => simpa [unfold, Occurrence.visit] using lists
  | succ depth ih =>
    obtain ⟨properties, pass⟩ := state
    rw [unfold]
    cases found : graph.get? id with
    | none => simpa [Occurrence.visit] using lists
    | some node =>
      simp only
      rw [Occurrence.visit]
      cases group : node.kind.isGroup with
      | false =>
        have same : (pass.meet host view properties id node.kind).2.frame.listed =
            pass.frame.listed := by
          rw [pass.frame_meet, Frame.listed_add]
        simp only [Bool.false_eq_true, if_false]
        exact ⟨same ▸ lists.nodup, same ▸ lists.pending⟩
      | true =>
        simp only [if_true]
        cases entering : properties.entering? node.kind with
        | none =>
          simp only
          cases kind : node.kind with
          | inline inline =>
            rw [Pass.shut]
            split
            · rename_i status
              exact lists.request (status?_eq_some_iff.2 ⟨node, inline, found, kind, status⟩) _ _
            · exact lists
          | _ => exact lists
        | some inner =>
          simp only
          generalize Occurrence.shown node.kind _ _ _ = positions
          have before : (inner, pass).2.frame.ListsPending graph := lists
          generalize (inner, pass) = state at before
          induction positions generalizing state with
          | nil => exact before
          | cons position positions further => exact further _ (ih _ state before)

/-- A frame lists each pending inline that it meets, once. -/
theorem listsPending_render (renderer : Renderer) (host : Host σ) (state : σ)
    (graph : SceneGraph) (camera : Camera) (aspect : Float32) :
    (renderer.render host state graph camera aspect).1.ListsPending graph := by
  rw [Renderer.render, unfolding]
  cases graph.root with
  | none => exact Frame.listsPending_empty graph
  | some root =>
    have lists := listsPending_visit host (renderer.view (renderer.lights graph camera) camera aspect)
      (graph.nodes.size + 1) root
      (({ base := graph.base }, { caches := renderer.caches, host := state }) : Properties × Pass σ)
      (Frame.listsPending_empty graph)
    exact ⟨lists.nodup, lists.pending⟩

end SceneGraph

end VrmlWorld
