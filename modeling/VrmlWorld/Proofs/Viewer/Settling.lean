/-
  VrmlWorld/Proofs/Viewer/Settling.lean
  =====================================
  **Every inline is asked for once at most, and heard of once when it is settled.**

  Each part of an operation keeps the accounts of the scene in order, with the
  loader as the list of what is outstanding; within a frame, answers that have
  been polled and not yet published are outstanding beside it
  (`Session.Within`). Behind the operation the two agree again
  (`Session.Balanced`), and so they do behind every run.
-/
import VrmlWorld.Proofs.Render.Requests
import VrmlWorld.Proofs.Viewer.Accounts
import VrmlWorld.Proofs.Viewer.Fetches
import VrmlWorld.Proofs.Viewer.Runs

namespace VrmlWorld

namespace Session

variable {σ : Type}

/-! ### What viewpoints and answers leave alone -/

theorem scene_refreshViewpoints (session : Session σ) (force : Bool) :
    (session.refreshViewpoints force).graph = session.graph ∧
      (session.refreshViewpoints force).loader = session.loader := by
  rw [refreshViewpoints]
  split
  · exact ⟨rfl, rfl⟩
  · exact ⟨rfl, rfl⟩

theorem scene_setViewpoint (session : Session σ) (position : Nat) :
    (session.setViewpoint position).2.graph = session.graph ∧
      (session.setViewpoint position).2.loader = session.loader := by
  rw [setViewpoint]
  split
  · exact ⟨rfl, rfl⟩
  · dsimp only
    split
    · exact ⟨rfl, rfl⟩
    · exact ⟨rfl, rfl⟩

theorem scene_replaceScene (session : Session σ) (graph : SceneGraph) :
    (session.replaceScene graph).graph = graph ∧
      (session.replaceScene graph).loader = session.loader.reset := by
  rw [replaceScene]
  constructor
  · rw [(scene_setViewpoint _ 0).1, (scene_refreshViewpoints _ true).1]
  · rw [(scene_setViewpoint _ 0).2, (scene_refreshViewpoints _ true).2]

theorem loader_publish (session : Session σ) (result : FetchResult) :
    (session.publish result).2.loader = session.loader := by
  rw [publish]
  split
  · split <;> rfl
  · rfl

end Session

/-! ### Within an operation -/

/-- A session on the way through an operation that began as `origin`: its scene
    is a later stage, and with the events that have been added its accounts
    are in order. -/
structure Session.Within {σ : Type} (origin : Session σ) (sent : List Event)
    (asked outstanding : List NodeId) (session : Session σ) : Prop where
  continues : origin.graph.Continues session.graph
  events : ∃ new, session.events.queue = origin.events.queue ++ new ∧
    session.graph.Accounts asked outstanding (sent ++ new)

namespace Session.Within

variable {σ : Type} {origin session : Session σ} {sent : List Event}
  {asked outstanding : List NodeId} {id : NodeId}

theorem begin (accounts : origin.graph.Accounts asked outstanding sent) :
    origin.Within sent asked outstanding origin where
  continues := .refl _
  events := ⟨[], by simp, by simpa using accounts⟩

theorem regular (within : origin.Within sent asked outstanding session) :
    session.graph.Regular := by
  obtain ⟨new, -, accounts⟩ := within.events
  exact accounts.regular

/-- Only the scene and the events of a session count. -/
theorem congr (within : origin.Within sent asked outstanding session) {other : Session σ}
    (sameGraph : other.graph = session.graph) (sameEvents : other.events = session.events) :
    origin.Within sent asked outstanding other := by
  refine ⟨?_, ?_⟩
  · rw [sameGraph]
    exact within.continues
  · rw [sameGraph, sameEvents]
    exact within.events

theorem congr_outstanding (within : origin.Within sent asked outstanding session)
    {others : List NodeId} (perm : others.Perm outstanding) :
    origin.Within sent asked others session := by
  obtain ⟨new, queue, accounts⟩ := within.events
  exact ⟨within.continues, new, queue, accounts.congr_outstanding perm⟩

theorem send_quiet (within : origin.Within sent asked outstanding session) {event : Event}
    (quiet : event.Quiet) : origin.Within sent asked outstanding (session.send event) := by
  obtain ⟨new, queue, accounts⟩ := within.events
  refine ⟨within.continues, new ++ [event], ?_, ?_⟩
  · rw [← List.append_assoc, ← queue]
    rfl
  · rw [← List.append_assoc]
    exact accounts.quiet quiet

theorem refreshViewpoints (within : origin.Within sent asked outstanding session) (force : Bool) :
    origin.Within sent asked outstanding (session.refreshViewpoints force) := by
  rw [Session.refreshViewpoints]
  split
  · refine send_quiet ?_ (Event.quiet_viewpointsChanged _)
    exact within.congr rfl rfl
  · exact within.congr rfl rfl

theorem setViewpoint (within : origin.Within sent asked outstanding session) (position : Nat) :
    origin.Within sent asked outstanding (session.setViewpoint position).2 := by
  rw [Session.setViewpoint]
  split
  · exact within
  · dsimp only
    split
    · exact within.congr rfl rfl
    · refine send_quiet ?_ (Event.quiet_activeViewpointChanged position)
      exact within.congr rfl rfl

/-- A change of the scene with the event that tells of it. -/
theorem settle (within : origin.Within sent asked outstanding session) {graph : SceneGraph}
    {status old : InlineStatus} {event : Event} (advances : session.graph.Advances id status graph)
    (before : session.graph.status? id = some old) (move : old.Moves status)
    (settled : status.isSettled = true) (tells : event.Tells (session.graph.handle id) status) :
    origin.Within sent asked (outstanding.erase id) ({ session with graph }.send event) := by
  obtain ⟨new, queue, accounts⟩ := within.events
  refine ⟨within.continues.trans (advances.continues before move), new ++ [event], ?_, ?_⟩
  · rw [← List.append_assoc, ← queue]
    rfl
  · rw [← List.append_assoc]
    exact accounts.settle advances before move settled tells

theorem failInline (within : origin.Within sent asked outstanding session) {old : InlineStatus}
    (before : session.graph.status? id = some old) (move : old.Moves .failed) (reason : String) :
    origin.Within sent asked (outstanding.erase id) (session.failInline id reason) := by
  obtain ⟨graph, set⟩ := SceneGraph.setInlineStatus?_of_status? before .failed
  have advances := within.regular.advances_setInlineStatus? set
  rw [Session.failInline, set, Option.getD_some]
  exact within.settle advances before move rfl (Event.tells_inlineFailed _ reason)

theorem publish {result : FetchResult} {others : List NodeId}
    (within : origin.Within sent asked (result.fetch.request.node :: others) session)
    (read : ∀ loaded, result.outcome = .ok loaded → loaded.AsRead) :
    origin.Within sent asked others (session.publish result).2 := by
  obtain ⟨new, queue, accounts⟩ := within.events
  have loading := (accounts.mem_outstanding _).1 (List.mem_cons_self ..)
  rw [Session.publish]
  cases outcome : result.outcome with
  | ok loaded =>
    obtain ⟨inline, isInline, -⟩ := Option.map_eq_some_iff.1 loading
    have spliced : ∃ graph, session.graph.splice? result.fetch.request.node loaded
        result.fetch.request.location = some graph := by
      rw [SceneGraph.splice?, isInline]
      exact ⟨_, rfl⟩
    obtain ⟨graph, spliced⟩ := spliced
    have advances := within.regular.advances_splice? (read loaded outcome) spliced
    have same : graph.handle result.fetch.request.node =
        session.graph.handle result.fetch.request.node :=
      within.regular.kept.handle_of_stay advances.regular.kept advances.stay
        (SceneGraph.stored_of_status? loading)
    have settled := within.settle advances loading .fill rfl (Event.tells_inlineLoaded _)
    rw [List.erase_cons_head] at settled
    simpa only [spliced, same] using settled
  | error error =>
    have failed := within.failInline loading .fail error.message
    rw [List.erase_cons_head] at failed
    exact failed

/-! ### Frames -/

/-- Fetches are published one after the other, the first outstanding one first. -/
theorem foldl_publish (results : List FetchResult) {others : List NodeId}
    (within : origin.Within sent asked (results.map (·.fetch.request.node) ++ others) session)
    (read : ∀ result ∈ results, ∀ loaded, result.outcome = .ok loaded → loaded.AsRead)
    (any : Bool) :
    let after := results.foldl
      (fun (reached : Bool × Session σ) result =>
        (reached.1 || (reached.2.publish result).1, (reached.2.publish result).2)) (any, session)
    origin.Within sent asked others after.2 ∧ after.2.loader = session.loader := by
  induction results generalizing session any with
  | nil => exact ⟨within, rfl⟩
  | cons result results ih =>
    have first := within.publish (read result (by simp))
    obtain ⟨after, loader⟩ := ih first (fun other member => read other (by simp [member])) _
    exact ⟨after, loader.trans (loader_publish session result)⟩

theorem publishAll (sound : session.loader.Sound)
    (within : origin.Within sent asked session.loader.outstanding session) :
    session.publishAll.loader = session.loader.poll.2 ∧
      origin.Within sent asked session.loader.poll.2.outstanding session.publishAll := by
  have polled : origin.Within sent asked
      (session.loader.poll.1.map (·.fetch.request.node) ++ session.loader.poll.2.outstanding)
      { session with loader := session.loader.poll.2 } := by
    rw [← InlineLoader.outstanding_eq_poll]
    exact within.congr rfl rfl
  obtain ⟨published, sameLoader⟩ := polled.foldl_publish session.loader.poll.1
    (fun result member loaded => sound.asRead_of_mem_poll member) false
  rw [Session.publishAll]
  dsimp only
  generalize session.loader.poll.1.foldl _ _ = reached at published sameLoader
  split
  · split
    · refine ⟨?_, (published.refreshViewpoints false).setViewpoint 0⟩
      rw [(scene_setViewpoint _ 0).2, (scene_refreshViewpoints _ false).2, sameLoader]
    · exact ⟨(scene_refreshViewpoints reached.2 false).2.trans sameLoader,
        published.refreshViewpoints false⟩
  · exact ⟨sameLoader, published⟩

theorem ask (within : origin.Within sent asked outstanding session) {graph : SceneGraph}
    (advances : session.graph.Advances id .loading graph)
    (pending : session.graph.status? id = some .pending) :
    origin.Within sent (asked ++ [id]) (outstanding ++ [id]) { session with graph } := by
  obtain ⟨new, queue, accounts⟩ := within.events
  exact ⟨within.continues.trans (advances.continues pending .ask), new, queue,
    accounts.ask advances pending⟩

end Session.Within

/-- A session within an operation whose loader counts what is outstanding. -/
structure Session.Balanced {σ : Type} (origin : Session σ) (sent : List Event)
    (asked : List NodeId) (session : Session σ) : Prop where
  sound : session.loader.Sound
  within : origin.Within sent asked session.loader.outstanding session

namespace Session.Balanced

variable {σ : Type} {origin session : Session σ} {sent : List Event} {asked : List NodeId}
  {id other : NodeId}

theorem publishAll (balanced : origin.Balanced sent asked session) :
    origin.Balanced sent asked session.publishAll := by
  obtain ⟨sameLoader, published⟩ := balanced.within.publishAll balanced.sound
  exact ⟨sameLoader ▸ balanced.sound.poll, sameLoader ▸ published⟩

theorem not_mem_outstanding (balanced : origin.Balanced sent asked session)
    (pending : session.graph.status? id = some .pending) : id ∉ session.loader.outstanding := by
  obtain ⟨new, -, accounts⟩ := balanced.within.events
  rw [accounts.mem_outstanding, pending]
  simp

theorem failInline (balanced : origin.Balanced sent asked session)
    (pending : session.graph.status? id = some .pending) (reason : String) :
    origin.Balanced sent asked (session.failInline id reason) := by
  have failed := balanced.within.failInline pending .giveUp reason
  rw [List.erase_of_not_mem (balanced.not_mem_outstanding pending)] at failed
  exact ⟨balanced.sound, failed⟩

theorem requestInline (balanced : origin.Balanced sent asked session)
    (refusal : InlineRequest → Option AssetError) {request : InlineRequest}
    (pending : session.graph.status? request.node = some .pending) :
    origin.Balanced sent (asked ++ [request.node]) (session.requestInline refusal request) := by
  obtain ⟨graph, set⟩ := SceneGraph.setInlineStatus?_of_status? pending .loading
  have advances := balanced.within.regular.advances_setInlineStatus? set
  have asked := balanced.within.ask advances pending
  simp only [Session.requestInline, set, Option.getD_some]
  cases refusal request with
  | none =>
    refine ⟨balanced.sound.request request, ?_⟩
    rw [InlineLoader.outstanding_request]
    exact asked.congr rfl rfl
  | some error =>
    have failed := asked.failInline advances.self .fail error.message
    rw [List.erase_append_right _ (balanced.not_mem_outstanding pending), List.erase_cons_head,
      List.append_nil] at failed
    exact ⟨balanced.sound, failed⟩

theorem status?_requestInline_of_ne (session : Session σ)
    (refusal : InlineRequest → Option AssetError) {request : InlineRequest}
    (different : other ≠ request.node) :
    (session.requestInline refusal request).graph.status? other =
      session.graph.status? other := by
  have asked := session.graph.status?_setInlineStatus?_of_ne different .loading
  rw [Session.requestInline]
  split
  · exact asked
  · exact (SceneGraph.status?_setInlineStatus?_of_ne _ different .failed).trans asked

/-- The requests of a frame are made one after the other; none is in the way of
    those behind it. -/
theorem foldl_requestInline (balanced : origin.Balanced sent asked session)
    (refusal : InlineRequest → Option AssetError) (requests : List InlineRequest)
    (nodup : (requests.map (·.node)).Nodup)
    (pending : ∀ id ∈ requests.map (·.node), session.graph.status? id = some .pending) :
    let after := requests.foldl (Session.requestInline refusal) session
    origin.Balanced sent (asked ++ requests.map (·.node)) after ∧
      ∀ id ∉ requests.map (·.node), after.graph.status? id = session.graph.status? id := by
  induction requests generalizing session asked with
  | nil => exact ⟨by simpa using balanced, fun _ _ => rfl⟩
  | cons request requests ih =>
    obtain ⟨apart, nodup⟩ := List.nodup_cons.1 nodup
    have first := balanced.requestInline refusal (pending request.node (by simp))
    obtain ⟨after, others⟩ := ih first nodup (by
      intro id member
      have different : id ≠ request.node := by
        rintro rfl
        exact apart member
      rw [status?_requestInline_of_ne session refusal different]
      exact pending id (by simp [member]))
    refine ⟨by simpa using after, ?_⟩
    intro id absent
    rw [List.map_cons, List.mem_cons, not_or] at absent
    exact (others id absent.2).trans (status?_requestInline_of_ne session refusal absent.1)

theorem foldl_failInline (balanced : origin.Balanced sent asked session) (reason : String)
    (ids : List NodeId) (nodup : ids.Nodup)
    (pending : ∀ id ∈ ids, session.graph.status? id = some .pending) :
    origin.Balanced sent asked (ids.foldl (·.failInline · reason) session) := by
  induction ids generalizing session with
  | nil => exact balanced
  | cons id ids ih =>
    obtain ⟨apart, nodup⟩ := List.nodup_cons.1 nodup
    refine ih (balanced.failInline (pending id (by simp)) reason) nodup ?_
    intro other member
    have different : other ≠ id := by
      rintro rfl
      exact apart member
    exact (session.graph.status?_setInlineStatus?_of_ne different .failed).trans
      (pending other (by simp [member]))

/-- A frame publishes, draws, asks for what it has listed, and gives up what leads
    nowhere. -/
theorem frame_parts (balanced : origin.Balanced sent asked session) (viewport : Geometry.Vec2)
    (refusal : InlineRequest → Option AssetError) :
    ∃ frame drawn,
      session.frame viewport refusal = (frame,
        frame.unresolved.toList.foldl (·.failInline · "unresolvable reference")
          (frame.pending.toList.foldl (Session.requestInline refusal) drawn)) ∧
      drawn.graph = session.publishAll.graph ∧ origin.Balanced sent asked drawn ∧
      frame.ListsPending drawn.graph := by
  have published := balanced.publishAll
  rw [Session.frame]
  dsimp only
  generalize session.publishAll = session at published
  have lists := session.graph.listsPending_render session.renderer session.host session.state
    session.camera (if 0 < viewport.y then viewport.x / viewport.y else 1)
  generalize session.renderer.render _ _ _ _ _ = answer at lists
  obtain ⟨frame, renderer, state⟩ := answer
  simp only [← Array.foldl_toList]
  exact ⟨frame, { session with renderer, state }, rfl, rfl,
    ⟨published.sound, published.within.congr rfl rfl⟩, lists⟩

/-- What a frame asks for is what it has drawn. -/
theorem frame (balanced : origin.Balanced sent asked session) (viewport : Geometry.Vec2)
    (refusal : InlineRequest → Option AssetError) :
    origin.Balanced sent
      (asked ++ (session.frame viewport refusal).1.pending.toList.map (·.node))
      (session.frame viewport refusal).2 := by
  obtain ⟨frame, drawn, performed, -, drawnBalanced, lists⟩ :=
    balanced.frame_parts viewport refusal
  obtain ⟨requests, nodes, apart⟩ := List.nodup_append.1 lists.nodup
  obtain ⟨requested, others⟩ := drawnBalanced.foldl_requestInline refusal frame.pending.toList
    requests fun id member => lists.pending id (List.mem_append_left _ member)
  rw [performed]
  refine requested.foldl_failInline _ _ nodes ?_
  intro id member
  have different : id ∉ frame.pending.toList.map (·.node) := fun listed =>
    apart id listed id member rfl
  rw [others id different]
  exact lists.pending id (List.mem_append_right _ member)

end Session.Balanced

/-! ### Runs -/

namespace Run

variable {σ : Type} {run : Run σ} {operation : Operation σ}

/-- The loader counts what is outstanding, and the scene has its accounts in
    order. -/
structure InOrder (run : Run σ) : Prop where
  sound : run.session.loader.Sound
  accounts : run.session.graph.Accounts (run.requests.map (·.node)) run.session.loader.outstanding
    run.sent

theorem inOrder_start (settings : Settings) (host : Host σ) (state : σ) :
    InOrder { session := .start settings host state } where
  sound := InlineLoader.sound_start
  accounts := .start SceneGraph.asRead_empty

/-- What an operation leaves balanced is in order with the events that it has
    sent. -/
theorem accounts_of_balanced {origin session : Session σ} {sent : List Event} {asked : List NodeId}
    (balanced : origin.Balanced sent asked (operation.perform session))
    (sameEvents : origin.events = session.events) :
    (operation.perform session).graph.Accounts asked
      (operation.perform session).loader.outstanding (sent ++ operation.sends session) := by
  obtain ⟨new, queue, accounts⟩ := balanced.within.events
  rw [sameEvents] at queue
  rwa [Operation.sends_of_queue_eq queue]

/-- Another scene begins: its inlines are pending, and nothing is known of them. -/
theorem InOrder.load (inOrder : run.InOrder) {next : Session σ}
    (loaded : operation.load? run.session = some next) :
    (run.step operation).InOrder ∧
      ∀ id, ∀ status ∈ (operation.perform run.session).graph.status? id, status = .pending := by
  obtain ⟨text, graph, stats, base, parsed, rfl⟩ := Operation.exists_of_load? loaded
  have asRead := (Document.asRead_of_parse? parsed).setBase base
  have performed := Operation.perform_of_load? loaded
  obtain ⟨sameGraph, sameLoader⟩ := run.session.scene_replaceScene { graph with base }
  let fresh : Session σ :=
    { run.session with
      graph := { graph with base }
      renderer := run.session.renderer.clear
      loader := run.session.loader.reset
      camera := .ofSettings run.session.settings.camera
      active := none }
  have within : fresh.Within [] [] run.session.loader.reset.outstanding fresh := by
    refine .begin ?_
    rw [inOrder.sound.outstanding_reset]
    exact .start asRead
  have balanced : fresh.Balanced [] [] (operation.perform run.session) := by
    rw [performed]
    refine ⟨sameLoader ▸ inOrder.sound.reset, ?_⟩
    rw [sameLoader]
    exact (within.refreshViewpoints true).setViewpoint 0
  have accounts := accounts_of_balanced balanced rfl
  have begins : operation.begins run.session = true := by
    rw [Operation.begins, loaded]
    rfl
  have noRequests : operation.requests run.session = [] := by
    cases operation with
    | frame => cases loaded
    | _ => rfl
  constructor
  · exact ⟨balanced.sound, by simpa [step, begins, noRequests] using accounts⟩
  · rw [performed, sameGraph]
    exact fun id status h => asRead.pending h

theorem InOrder.calm (inOrder : run.InOrder) (calm : operation.isCalm = true) :
    (run.step operation).InOrder ∧
      run.session.graph.Continues (operation.perform run.session).graph := by
  obtain ⟨sameGraph, sameLoader, noRequests, noEvents⟩ :=
    Operation.perform_of_isCalm calm run.session
  have begins : operation.begins run.session = false := by
    cases operation with
    | loadScene | loadLocation => cases calm
    | _ => rfl
  refine ⟨⟨?_, ?_⟩, ?_⟩
  · exact sameLoader ▸ inOrder.sound
  · simpa [step, begins, noRequests, noEvents, sameGraph, sameLoader] using inOrder.accounts
  · rw [sameGraph]
    exact .refl _

/-- Within a scene every operation continues it. All but the calm ones only add
    events, so they can be followed step by step. -/
theorem InOrder.stay (inOrder : run.InOrder) (stays : operation.load? run.session = none) :
    (run.step operation).InOrder ∧
      run.session.graph.Continues (operation.perform run.session).graph := by
  have begins : operation.begins run.session = false := by
    rw [Operation.begins, stays]
    rfl
  have start : run.session.Balanced run.sent (run.requests.map (·.node)) run.session :=
    ⟨inOrder.sound, .begin inOrder.accounts⟩
  have follow (handed : List InlineRequest) (isHanded : operation.requests run.session = handed)
      (balanced : run.session.Balanced run.sent
        (run.requests.map (·.node) ++ handed.map (·.node)) (operation.perform run.session)) :
      (run.step operation).InOrder ∧
        run.session.graph.Continues (operation.perform run.session).graph := by
    have accounts := accounts_of_balanced balanced rfl
    exact ⟨⟨balanced.sound, by simpa [step, begins, isHanded] using accounts⟩,
      balanced.within.continues⟩
  cases operation with
  | loadScene text base =>
    refine follow [] rfl ?_
    rw [Operation.perform, stays, Option.getD_none, List.map_nil, List.append_nil]
    exact start
  | loadLocation location answer =>
    refine follow [] rfl ?_
    rw [Operation.perform, stays, Option.getD_none, List.map_nil, List.append_nil]
    exact start
  | frame viewport refusal => exact follow _ rfl (start.frame viewport refusal)
  | complete position answer =>
    refine follow [] rfl ⟨inOrder.sound.complete position answer, ?_⟩
    have perm := run.session.loader.outstanding_complete position answer
    rw [List.map_nil, List.append_nil]
    exact (start.within.congr_outstanding perm).congr rfl rfl
  | setViewpoint position =>
    have sameLoader := (run.session.scene_setViewpoint position).2
    refine follow [] rfl ⟨sameLoader ▸ inOrder.sound, ?_⟩
    rw [Operation.perform, sameLoader, List.map_nil, List.append_nil]
    exact start.within.setViewpoint position
  | _ => exact inOrder.calm rfl

theorem InOrder.step (inOrder : run.InOrder) (operation : Operation σ) :
    (run.step operation).InOrder := by
  cases loaded : operation.load? run.session with
  | none => exact (inOrder.stay loaded).1
  | some next => exact (inOrder.load loaded).1

/-- Behind every run of a session:

    * no inline of the scene has been asked for twice;
    * a host has heard of the inline of a handle how it has settled, once, if it
      has settled, and nothing otherwise;
    * the counter of fetches is the number of stored inlines that are loading;
    * whatever is done next, all inlines of another scene are pending, and those
      of the same scene stay or move along, from pending to loading to loaded or
      failed, or from pending to failed. -/
theorem inlines_settle_once (settings : Settings) (host : Host σ) (state : σ)
    (operations : List (Operation σ)) :
    let run := Run.of settings host state operations
    let graph := run.session.graph
    (run.requests.map (·.node)).Nodup ∧
    (∀ handle, newsOf run.sent handle =
      ((graph.statusOf? handle).filter (·.isSettled)).toList) ∧
    run.session.pendingInlines =
      graph.stored.countP (fun (id, _) => graph.status? id = some .loading) ∧
    ∀ operation : Operation σ,
      let next := (operation.perform run.session).graph
      if operation.begins run.session then ∀ id, ∀ status ∈ next.status? id, status = .pending
      else graph.Continues next := by
  intro run graph
  have inOrder : run.InOrder :=
    of_induction (inOrder_start settings host state) (fun run operation h => h.step operation)
      operations
  refine ⟨inOrder.accounts.asked_nodup, inOrder.accounts.news, ?_, ?_⟩
  · rw [← inOrder.accounts.length_outstanding]
    exact inOrder.sound.count
  · intro operation next
    rw [Operation.begins]
    cases loaded : operation.load? run.session with
    | none => exact (inOrder.stay loaded).2
    | some next' => exact (inOrder.load loaded).2

end Run

end VrmlWorld
