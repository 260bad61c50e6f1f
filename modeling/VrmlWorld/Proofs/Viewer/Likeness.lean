/-
  VrmlWorld/Proofs/Viewer/Likeness.lean
  =====================================
  **Two sessions that show the same.**

  Sessions may differ in what is left of earlier scenes: the events that wait,
  the fetches of those scenes and their answers, the number of the scene, where
  the pointer was when its movement was last taken, and whatever the host
  remembers. `Session.Alike` leaves these out, and every part of an operation
  keeps it.
-/
import VrmlWorld.Proofs.Render.Answers
import VrmlWorld.Proofs.Viewer.Fetches
import VrmlWorld.Viewer.Session

namespace VrmlWorld

open VrmlWorld.Geometry

/-! ### Filtered lists -/

section Filtered

variable {α : Type} {p : α → Bool} {members : List α} {position : Nat} {a : α}

def passedBefore (p : α → Bool) (members : List α) (position : Nat) : Nat :=
  (members.take position).countP p

theorem split_at (found : members[position]? = some a) :
    members = members.take position ++ a :: members.drop (position + 1) := by
  obtain ⟨inside, rfl⟩ := List.getElem?_eq_some_iff.1 found
  simp

theorem getElem?_filter_passedBefore (found : members[position]? = some a) (passes : p a = true) :
    (members.filter p)[passedBefore p members position]? = some a := by
  have filtered := congrArg (List.filter p) (split_at found)
  rw [List.filter_append, List.filter_cons_of_pos passes] at filtered
  rw [filtered, passedBefore, List.countP_eq_length_filter, List.getElem?_append_right (Nat.le_refl _)]
  simp

theorem filter_eraseIdx_of_pos (found : members[position]? = some a) (passes : p a = true) :
    (members.eraseIdx position).filter p =
      (members.filter p).eraseIdx (passedBefore p members position) := by
  have filtered := congrArg (List.filter p) (split_at found)
  rw [List.filter_append, List.filter_cons_of_pos passes] at filtered
  rw [filtered, passedBefore, List.countP_eq_length_filter,
    List.eraseIdx_append_of_length_le (Nat.le_refl _), Nat.sub_self, List.eraseIdx_cons_zero,
    List.eraseIdx_eq_take_drop_succ, List.filter_append]

theorem filter_eraseIdx_of_neg (found : members[position]? = some a) (stops : p a = false) :
    (members.eraseIdx position).filter p = members.filter p := by
  have filtered := congrArg (List.filter p) (split_at found)
  rw [List.filter_append, List.filter_cons_of_neg (by simp [stops])] at filtered
  rw [filtered, List.eraseIdx_eq_take_drop_succ, List.filter_append]

end Filtered

/-! ### Loaders -/

namespace InlineLoader

/-- Whether a fetch belongs to the scene that is shown. -/
def owns (loader : InlineLoader) (fetch : Fetch) : Bool := fetch.generation = loader.generation

/-- What is on its way for the scene that is shown. -/
def awaited (loader : InlineLoader) : List InlineRequest :=
  (loader.waiting.filter loader.owns).map (·.request)

/-- The answers for the scene that is shown, without its number. -/
def arrived (loader : InlineLoader) : List (InlineRequest × Except AssetError SceneGraph) :=
  (loader.finished.filter fun result => loader.owns result.fetch).map fun result =>
    (result.fetch.request, result.outcome)

/-- The loaders cannot be told apart by what concerns the scene. -/
structure Alike (loader other : InlineLoader) : Prop where
  inFlight : loader.inFlight = other.inFlight
  awaited : loader.awaited = other.awaited
  arrived : loader.arrived = other.arrived

namespace Alike

variable {loader other : InlineLoader}

theorem symm (alike : loader.Alike other) : other.Alike loader :=
  ⟨alike.inFlight.symm, alike.awaited.symm, alike.arrived.symm⟩

theorem trans {third : InlineLoader} (first : loader.Alike other) (second : other.Alike third) :
    loader.Alike third :=
  ⟨first.inFlight.trans second.inFlight, first.awaited.trans second.awaited,
    first.arrived.trans second.arrived⟩

end Alike

variable {loader other : InlineLoader} {position : Nat} {fetch : Fetch}

theorem awaited_request (loader : InlineLoader) (request : InlineRequest) :
    (loader.request request).awaited = loader.awaited ++ [request] := by
  have passes : (loader.request request).owns ⟨request, loader.generation⟩ = true :=
    decide_eq_true rfl
  rw [awaited]
  change List.map _ (List.filter _ (loader.waiting ++ [⟨request, loader.generation⟩])) = _
  rw [List.filter_append, List.filter_cons_of_pos passes, List.map_append]
  rfl

theorem Alike.request (alike : loader.Alike other) (request : InlineRequest) :
    (loader.request request).Alike (other.request request) where
  inFlight := congrArg (· + 1) alike.inFlight
  awaited := by rw [awaited_request, awaited_request, alike.awaited]
  arrived := alike.arrived

theorem owns_complete (loader : InlineLoader) (position : Nat)
    (answer : Except AssetError String) : (loader.complete position answer).owns = loader.owns := by
  funext fetch
  rw [owns, owns, generation_complete]

theorem getElem?_awaited (found : loader.waiting[position]? = some fetch)
    (own : loader.owns fetch = true) :
    loader.awaited[passedBefore loader.owns loader.waiting position]? = some fetch.request := by
  rw [awaited, List.getElem?_map, getElem?_filter_passedBefore found own]
  rfl

theorem complete_of_own (found : loader.waiting[position]? = some fetch)
    (own : loader.owns fetch = true) (answer : Except AssetError String) :
    (loader.complete position answer).inFlight = loader.inFlight ∧
      (loader.complete position answer).awaited =
        loader.awaited.eraseIdx (passedBefore loader.owns loader.waiting position) ∧
      (loader.complete position answer).arrived =
        loader.arrived ++ [(fetch.request, read fetch.request.location answer)] := by
  rw [awaited, arrived, owns_complete, awaited, arrived, complete, found]
  refine ⟨rfl, ?_, ?_⟩
  · rw [filter_eraseIdx_of_pos found own, List.eraseIdx_map]
  · simp [own]

/-- An answer for an earlier scene changes nothing for the scene that is shown. -/
theorem complete_alike_of_stale
    (stale : ∀ fetch, loader.waiting[position]? = some fetch → loader.owns fetch = false)
    (answer : Except AssetError String) : (loader.complete position answer).Alike loader := by
  cases found : loader.waiting[position]? with
  | none =>
    rw [complete, found]
    exact ⟨rfl, rfl, rfl⟩
  | some fetch =>
    have other := stale fetch found
    refine ⟨?_, ?_, ?_⟩
    · rw [complete, found]
    · rw [awaited, owns_complete, awaited, complete, found]
      simp only [filter_eraseIdx_of_neg found other]
    · rw [arrived, owns_complete, arrived, complete, found]
      simp [other]

/-- The same answer for the same request of the scene that is shown, wherever the
    fetches of other scenes stand. -/
theorem Alike.complete (alike : loader.Alike other) {position' : Nat} {fetch' : Fetch}
    (found : loader.waiting[position]? = some fetch) (own : loader.owns fetch = true)
    (found' : other.waiting[position']? = some fetch') (own' : other.owns fetch' = true)
    (samePlace : passedBefore loader.owns loader.waiting position =
      passedBefore other.owns other.waiting position')
    (answer : Except AssetError String) :
    (loader.complete position answer).Alike (other.complete position' answer) := by
  obtain ⟨inFlight, awaited, arrived⟩ := complete_of_own found own answer
  obtain ⟨inFlight', awaited', arrived'⟩ := complete_of_own found' own' answer
  have sameRequest : fetch.request = fetch'.request := by
    have here := getElem?_awaited found own
    rw [alike.awaited, samePlace, getElem?_awaited found' own'] at here
    exact (Option.some.inj here).symm
  refine ⟨?_, ?_, ?_⟩
  · rw [inFlight, inFlight', alike.inFlight]
  · rw [awaited, awaited', alike.awaited, samePlace]
  · rw [arrived, arrived', alike.arrived, sameRequest]

theorem arrived_eq_poll (loader : InlineLoader) :
    loader.arrived = loader.poll.1.map fun result => (result.fetch.request, result.outcome) := rfl

theorem Alike.poll (alike : loader.Alike other) : loader.poll.2.Alike other.poll.2 where
  inFlight := by
    have sameLength := congrArg List.length alike.arrived
    rw [arrived_eq_poll, arrived_eq_poll, List.length_map, List.length_map] at sameLength
    change loader.inFlight - loader.poll.1.length = other.inFlight - other.poll.1.length
    rw [alike.inFlight, sameLength]
  awaited := alike.awaited
  arrived := rfl

/-- Where another scene begins, nothing is on its way for it. -/
theorem reset_alike (sound : loader.Sound) (sound' : other.Sound) :
    loader.reset.Alike other.reset := by
  have nothing {loader : InlineLoader} (sound : loader.Sound) :
      loader.reset.awaited = [] ∧ loader.reset.arrived = [] := by
    have foreign : ∀ fetch ∈ loader.fetches, ¬ loader.reset.owns fetch = true := by
      intro fetch member own
      have stamp := sound.stamps fetch member
      have later : fetch.generation = loader.generation + 1 := of_decide_eq_true own
      omega
    constructor
    · rw [awaited, List.map_eq_nil_iff, List.filter_eq_nil_iff]
      intro fetch member
      exact foreign fetch (List.mem_append_right _ member)
    · rw [arrived, List.map_eq_nil_iff, List.filter_eq_nil_iff]
      intro result member
      exact foreign _ (List.mem_append_left _ (List.mem_map_of_mem member))
  obtain ⟨awaited, arrived⟩ := nothing sound
  obtain ⟨awaited', arrived'⟩ := nothing sound'
  exact ⟨rfl, awaited.trans awaited'.symm, arrived.trans arrived'.symm⟩

end InlineLoader

/-! ### Mice -/

namespace Mouse

/-- The pointers are at the same place, and if the button is held, it went down at
    the same place and the same movement has been taken. -/
structure Alike (mouse other : Mouse) : Prop where
  position : mouse.position = other.position
  pressed : mouse.pressed = other.pressed
  last : mouse.pressed.isSome = true → mouse.last = other.last

namespace Alike

variable {mouse other : Mouse}

theorem symm (alike : mouse.Alike other) : other.Alike mouse :=
  ⟨alike.position.symm, alike.pressed.symm, fun held => (alike.last (alike.pressed ▸ held)).symm⟩

theorem move (alike : mouse.Alike other) (position : Vec2) :
    (mouse.move position).Alike (other.move position) :=
  ⟨rfl, alike.pressed, alike.last⟩

theorem press (alike : mouse.Alike other) : mouse.press.Alike other.press := by
  refine ⟨alike.position, ?_, fun _ => alike.position⟩
  exact congrArg some alike.position

theorem isDragging (alike : mouse.Alike other) : mouse.isDragging = other.isDragging := by
  rw [Mouse.isDragging, Mouse.isDragging, alike.position, alike.pressed]

theorem release (alike : mouse.Alike other) :
    mouse.release.1 = other.release.1 ∧ mouse.release.2.Alike other.release.2 := by
  refine ⟨?_, alike.position, rfl, fun held => nomatch held⟩
  simp only [Mouse.release, alike.isDragging, alike.pressed]

theorem takeDelta (alike : mouse.Alike other) :
    mouse.takeDelta.1 = other.takeDelta.1 ∧ mouse.takeDelta.2.Alike other.takeDelta.2 := by
  rw [Mouse.takeDelta, Mouse.takeDelta, ← alike.pressed]
  cases held : mouse.pressed.isSome with
  | true =>
    simp only [if_true]
    refine ⟨?_, alike.position, rfl, fun _ => alike.position⟩
    rw [alike.position, alike.last held]
  | false => exact ⟨rfl, alike⟩

end Alike

end Mouse

/-! ### Sessions -/

namespace Session

variable {σ τ : Type}

/-- The sessions show the same, and will show the same if the same is done with
    them. -/
structure Alike (session : Session σ) (other : Session τ) : Prop where
  settings : session.settings = other.settings
  hosts : session.host.Alike other.host
  graph : session.graph = other.graph
  camera : session.camera = other.camera
  renderer : session.renderer = other.renderer
  loader : session.loader.Alike other.loader
  viewpoints : session.viewpoints = other.viewpoints
  active : session.active = other.active
  mouse : session.mouse.Alike other.mouse

namespace Alike

variable {session : Session σ} {other : Session τ}

theorem symm (alike : session.Alike other) : other.Alike session where
  settings := alike.settings.symm
  hosts := alike.hosts.symm
  graph := alike.graph.symm
  camera := alike.camera.symm
  renderer := alike.renderer.symm
  loader := alike.loader.symm
  viewpoints := alike.viewpoints.symm
  active := alike.active.symm
  mouse := alike.mouse.symm

theorem send (alike : session.Alike other) (event event' : Event) :
    (session.send event).Alike (other.send event') := { alike with }

/-! ### Viewpoints -/

theorem refreshViewpoints (alike : session.Alike other) (force : Bool) :
    (session.refreshViewpoints force).Alike (other.refreshViewpoints force) := by
  have collected : Session.Alike
      { session with
        viewpoints := session.graph.viewpoints session.camera.position
        active := session.active.filter
          (· < (session.graph.viewpoints session.camera.position).length) }
      { other with
        viewpoints := other.graph.viewpoints other.camera.position
        active := other.active.filter
          (· < (other.graph.viewpoints other.camera.position).length) } :=
    { alike with
      viewpoints := by simp only [alike.graph, alike.camera]
      active := by simp only [alike.graph, alike.camera, alike.active] }
  rw [Session.refreshViewpoints, Session.refreshViewpoints]
  simp only [← alike.viewpoints, ← alike.graph, ← alike.camera] at collected ⊢
  split
  · exact collected.send _ _
  · exact collected

theorem setViewpoint (alike : session.Alike other) (position : Nat) :
    (session.setViewpoint position).1 = (other.setViewpoint position).1 ∧
      (session.setViewpoint position).2.Alike (other.setViewpoint position).2 := by
  have sameEntry : other.viewpoints[position]? = session.viewpoints[position]? := by
    rw [alike.viewpoints]
  rw [Session.setViewpoint, Session.setViewpoint, sameEntry]
  cases session.viewpoints[position]? with
  | none => exact ⟨rfl, alike⟩
  | some viewpoint =>
    have gone : Session.Alike
        { session with camera := session.camera.activate viewpoint.camera viewpoint.world }
        { other with camera := other.camera.activate viewpoint.camera viewpoint.world } :=
      { alike with camera := by simp only [alike.camera] }
    have sameActive : session.active = some position ↔ other.active = some position := by
      rw [alike.active]
    dsimp only
    by_cases isActive : session.active = some position
    · rw [if_pos isActive, if_pos (sameActive.1 isActive)]
      exact ⟨rfl, gone⟩
    · rw [if_neg isActive, if_neg (mt sameActive.2 isActive)]
      exact ⟨rfl, { gone with active := rfl }⟩

/-! ### Scenes -/

theorem failInline (alike : session.Alike other) (node : NodeId) (reason : String) :
    (session.failInline node reason).Alike (other.failInline node reason) :=
  { alike with graph := by simp only [Session.failInline, Session.send, alike.graph] }

theorem publish (alike : session.Alike other) {result result' : FetchResult}
    (sameRequest : result.fetch.request = result'.fetch.request)
    (sameOutcome : result.outcome = result'.outcome) :
    (session.publish result).1 = (other.publish result').1 ∧
      (session.publish result).2.Alike (other.publish result').2 := by
  rw [Session.publish, Session.publish, sameRequest, sameOutcome]
  cases result'.outcome with
  | error error => exact ⟨rfl, alike.failInline ..⟩
  | ok loaded =>
    simp only [alike.graph]
    split
    · exact ⟨rfl, { alike with graph := rfl }⟩
    · exact ⟨rfl, alike⟩

theorem foldl_publish (alike : session.Alike other) {results results' : List FetchResult}
    (same : (results.map fun result => (result.fetch.request, result.outcome)) =
      results'.map fun result => (result.fetch.request, result.outcome)) (any : Bool) :
    let after := results.foldl
      (fun (reached : Bool × Session σ) result =>
        (reached.1 || (reached.2.publish result).1, (reached.2.publish result).2)) (any, session)
    let after' := results'.foldl
      (fun (reached : Bool × Session τ) result =>
        (reached.1 || (reached.2.publish result).1, (reached.2.publish result).2)) (any, other)
    after.1 = after'.1 ∧ after.2.Alike after'.2 := by
  induction results generalizing results' session other any with
  | nil =>
    obtain rfl := List.map_eq_nil_iff.1 same.symm
    exact ⟨rfl, alike⟩
  | cons result results ih =>
    obtain ⟨result', others, rfl, first, rest⟩ := List.map_eq_cons_iff.1 same.symm
    obtain ⟨sameRequest, sameOutcome⟩ := Prod.mk.inj first.symm
    obtain ⟨sameFlag, published⟩ := alike.publish sameRequest sameOutcome
    simp only [List.foldl_cons, sameFlag]
    exact ih published rest.symm _

theorem publishAll (alike : session.Alike other) : session.publishAll.Alike other.publishAll := by
  have polled : Session.Alike { session with loader := session.loader.poll.2 }
      { other with loader := other.loader.poll.2 } :=
    { alike with loader := alike.loader.poll }
  have sameResults :
      (session.loader.poll.1.map fun result => (result.fetch.request, result.outcome)) =
        other.loader.poll.1.map fun result => (result.fetch.request, result.outcome) :=
    alike.loader.arrived
  obtain ⟨sameFlag, published⟩ := polled.foldl_publish sameResults false
  rw [Session.publishAll, Session.publishAll]
  dsimp only
  generalize session.loader.poll.1.foldl _ _ = reached at sameFlag published
  generalize other.loader.poll.1.foldl _ _ = reached' at sameFlag published
  rw [← sameFlag]
  split
  · have refreshed := published.refreshViewpoints false
    rw [← refreshed.active]
    split
    · exact (refreshed.setViewpoint 0).2
    · exact refreshed
  · exact published

theorem requestInline (alike : session.Alike other) (refusal : InlineRequest → Option AssetError)
    (request : InlineRequest) :
    (session.requestInline refusal request).Alike (other.requestInline refusal request) := by
  have loading : Session.Alike
      { session with
        graph := (session.graph.setInlineStatus? request.node .loading).getD session.graph }
      { other with
        graph := (other.graph.setInlineStatus? request.node .loading).getD other.graph } :=
    { alike with graph := by simp only [alike.graph] }
  rw [Session.requestInline, Session.requestInline]
  cases refusal request with
  | none => exact { loading with loader := alike.loader.request request }
  | some error => exact loading.failInline ..

theorem frame (alike : session.Alike other) (viewport : Vec2)
    (refusal : InlineRequest → Option AssetError) :
    (session.frame viewport refusal).1 = (other.frame viewport refusal).1 ∧
      (session.frame viewport refusal).2.Alike (other.frame viewport refusal).2 := by
  have published := alike.publishAll
  rw [Session.frame, Session.frame]
  dsimp only
  generalize session.publishAll = session at published
  generalize other.publishAll = other at published
  generalize (if 0 < viewport.y then viewport.x / viewport.y else 1) = aspect
  have drawn : (session.renderer.render session.host session.state session.graph session.camera
        aspect).1 =
      (other.renderer.render other.host other.state other.graph other.camera aspect).1 ∧
      (session.renderer.render session.host session.state session.graph session.camera
        aspect).2.1 =
      (other.renderer.render other.host other.state other.graph other.camera aspect).2.1 := by
    rw [← published.renderer, ← published.graph, ← published.camera]
    exact session.renderer.render_alike published.hosts ..
  generalize session.renderer.render _ _ _ _ _ = answer at drawn
  generalize other.renderer.render _ _ _ _ _ = answer' at drawn
  obtain ⟨frame, renderer, state⟩ := answer
  obtain ⟨frame', renderer', state'⟩ := answer'
  obtain ⟨rfl, rfl⟩ : frame = frame' ∧ renderer = renderer' := drawn
  have begun : Session.Alike { session with renderer, state }
      { other with renderer, state := state' } :=
    { published with renderer := rfl }
  refine ⟨rfl, ?_⟩
  refine Array.foldl_rel (r := Session.Alike) ?_ fun node _ _ _ alike => alike.failInline node _
  exact Array.foldl_rel (r := Session.Alike) begun
    fun request _ _ _ alike => alike.requestInline refusal request

/-! ### Input -/

theorem pick (alike : session.Alike other) : session.pick = other.pick := by
  funext screen viewport
  rw [Session.pick, Session.pick, alike.graph, alike.camera]

theorem mouseMoved (alike : session.Alike other) (position : Vec2) :
    (session.mouseMoved position).Alike (other.mouseMoved position) := by
  have moved := alike.mouse.move position
  obtain ⟨sameDelta, taken⟩ := moved.takeDelta
  rw [Session.mouseMoved, Session.mouseMoved]
  dsimp only
  rw [← moved.isDragging]
  split
  · exact { alike with
      mouse := taken
      camera := by rw [sameDelta, alike.camera, alike.settings] }
  · exact { alike with mouse := moved }

theorem mouseReleased (alike : session.Alike other) (viewport : Vec2) :
    (session.mouseReleased viewport).1 = (other.mouseReleased viewport).1 ∧
      (session.mouseReleased viewport).2.Alike (other.mouseReleased viewport).2 := by
  obtain ⟨sameClick, released⟩ := alike.mouse.release
  refine ⟨?_, { alike with mouse := released }⟩
  simp only [Session.mouseReleased, sameClick, alike.pick, released.position]

theorem scroll (alike : session.Alike other) (delta : Float32) :
    (session.scroll delta).Alike (other.scroll delta) :=
  { alike with camera := by simp only [Session.scroll, alike.camera, alike.settings] }

end Alike

/-- A forced collection forgets the viewpoints of the old scene. -/
theorem refreshViewpoints_true (session : Session σ) :
    session.refreshViewpoints true = { session with viewpoints := [] }.refreshViewpoints true := rfl

/-- Wherever two sessions come from, they show the same once they begin the same
    scene. -/
theorem replaceScene_alike {session : Session σ} {other : Session τ}
    (settings : session.settings = other.settings) (hosts : session.host.Alike other.host)
    (renderer : session.renderer.clear = other.renderer.clear) (sound : session.loader.Sound)
    (sound' : other.loader.Sound) (mouse : session.mouse.Alike other.mouse) (graph : SceneGraph) :
    (session.replaceScene graph).Alike (other.replaceScene graph) := by
  have begun : Session.Alike
      { session with
        graph
        renderer := session.renderer.clear
        loader := session.loader.reset
        camera := .ofSettings session.settings.camera
        viewpoints := []
        active := none }
      { other with
        graph
        renderer := other.renderer.clear
        loader := other.loader.reset
        camera := .ofSettings other.settings.camera
        viewpoints := []
        active := none } :=
    { settings, hosts, renderer, mouse
      graph := rfl
      camera := by rw [settings]
      loader := InlineLoader.reset_alike sound sound'
      viewpoints := rfl
      active := rfl }
  rw [replaceScene, replaceScene, refreshViewpoints_true]
  exact ((begun.refreshViewpoints true).setViewpoint 0).2

end Session

end VrmlWorld
