/-
  VrmlWorld/Viewer/Session.lean
  =============================
  **A session: one viewer, one document at a time.**

  A frame has three steps. Documents of inlines that have arrived become part of
  the scene; then the scene is drawn; then the documents of inlines that were
  met for the first time are asked for. Only the first step changes the nodes
  of the scene, so no drawing sees an inline half loaded.
-/
import VrmlWorld.Viewer.Event
import VrmlWorld.Viewer.InlineLoader
import VrmlWorld.Viewer.Mouse
import VrmlWorld.Viewer.Pick
import VrmlWorld.Viewer.Viewpoint

namespace VrmlWorld

open VrmlWorld.Geometry

/-- A viewer with its scene. The host has a state of type `σ`. -/
structure Session (σ : Type) where
  settings : Settings
  host : Host σ
  state : σ
  graph : SceneGraph := {}
  camera : Camera
  renderer : Renderer
  loader : InlineLoader := {}
  /-- In document order. -/
  viewpoints : List Viewpoint := []
  /-- The position of the viewpoint last gone to. -/
  active : Option Nat := none
  events : EventSystem σ := {}
  mouse : Mouse := {}

namespace Session

variable {σ : Type}

/-- A viewer without a scene. -/
def start (settings : Settings) (host : Host σ) (state : σ) : Session σ where
  settings
  host
  state
  camera := .ofSettings settings.camera
  renderer := .ofSettings settings

def send (session : Session σ) (event : Event) : Session σ :=
  { session with events := session.events.send event }

/-! ### Viewpoints -/

/-- Collects the viewpoints anew. Hosts hear of it when their number has
    changed, or in any case when `force` is set. -/
def refreshViewpoints (session : Session σ) (force : Bool) : Session σ :=
  let viewpoints := session.graph.viewpoints session.camera.position
  let changed := force || viewpoints.length != session.viewpoints.length
  let session :=
    { session with
      viewpoints
      active := session.active.filter (· < viewpoints.length) }
  if changed then session.send (.viewpointsChanged viewpoints.length) else session

/-- Goes to a viewpoint. The flag says whether there is one at the position. -/
def setViewpoint (session : Session σ) (position : Nat) : Bool × Session σ :=
  match session.viewpoints[position]? with
  | none => (false, session)
  | some viewpoint =>
      let session :=
        { session with camera := session.camera.activate viewpoint.camera viewpoint.world }
      if session.active = some position then (true, session)
      else (true, { session with active := some position }.send (.activeViewpointChanged position))

/-! ### Scenes -/

/-- Shows another scene. What was made for the old one is forgotten, and the
    first viewpoint is gone to. -/
def replaceScene (session : Session σ) (graph : SceneGraph) : Session σ :=
  let session :=
    { session with
      graph
      renderer := session.renderer.clear
      loader := session.loader.reset
      camera := .ofSettings session.settings.camera
      active := none }
  ((session.refreshViewpoints true).setViewpoint 0).2

/-- Replaces the scene by that of a text. A text without a scene changes
    nothing. -/
def loadScene (session : Session σ) (text : String) (base : Option Location) :
    Except AssetError (Session σ) :=
  match Document.parse? text with
  | none => .error .noRootNode
  | some (graph, _) => .ok (session.replaceScene { graph with base })

def loadLocation (session : Session σ) (location : Location)
    (answer : Except AssetError String) : Except AssetError (Session σ) := do
  session.loadScene (← answer) (some location)

/-! ### Frames -/

/-- Gives up an inline, and says why. -/
def failInline (session : Session σ) (node : NodeId) (reason : String) : Session σ :=
  { session with
    graph := (session.graph.setInlineStatus? node .failed).getD session.graph
  }.send (.inlineFailed (session.graph.handle node) reason)

/-- Puts the answer to a request into the scene. The flag says whether nodes
    have come in. -/
def publish (session : Session σ) (result : FetchResult) : Bool × Session σ :=
  let node := result.fetch.request.node
  match result.outcome with
  | .ok loaded =>
      match session.graph.splice? node loaded result.fetch.request.location with
      | some graph => (true, { session with graph }.send (.inlineLoaded (graph.handle node)))
      | none => (false, session)
  | .error error => (false, session.failInline node error.message)

/-- Puts all answers into the scene. When nodes have come in, viewpoints are
    collected anew, and the first is gone to if none was active. -/
def publishAll (session : Session σ) : Session σ :=
  let (results, loader) := session.loader.poll
  let (any, session) := results.foldl
    (fun (any, session) result =>
      let (loaded, session) := session.publish result
      (any || loaded, session))
    (false, { session with loader })
  if any then
    let session := session.refreshViewpoints false
    if session.active.isNone then (session.setViewpoint 0).2 else session
  else session

/-- Asks for the document of an inline, unless the system refuses to fetch it. -/
def requestInline (refusal : InlineRequest → Option AssetError) (session : Session σ)
    (request : InlineRequest) : Session σ :=
  let session :=
    { session with
      graph := (session.graph.setInlineStatus? request.node .loading).getD session.graph }
  match refusal request with
  | none => { session with loader := session.loader.request request }
  | some error => session.failInline request.node error.message

/-- Makes one frame for a viewport. The system may refuse to fetch some of the
    documents that the frame asks for. -/
def frame (session : Session σ) (viewport : Vec2)
    (refusal : InlineRequest → Option AssetError := fun _ => none) : Frame × Session σ :=
  let session := session.publishAll
  let aspect := if 0 < viewport.y then viewport.x / viewport.y else 1
  let (frame, renderer, state) := session.renderer.render session.host session.state
    session.graph session.camera aspect
  let session := { session with renderer, state }
  let session := frame.pending.foldl (requestInline refusal) session
  (frame, frame.unresolved.foldl (·.failInline · "unresolvable reference") session)

/-- How many requests of the scene are on their way. -/
def pendingInlines (session : Session σ) : Nat := session.loader.inFlight

/-- The host answers a request that is on its way. -/
def complete (session : Session σ) (position : Nat) (answer : Except AssetError String) :
    Session σ :=
  { session with loader := session.loader.complete position answer }

/-! ### Input -/

/-- The nearest box or ball behind a place of the screen. -/
def pick (session : Session σ) (screen viewport : Vec2) : Option Hit :=
  session.graph.pick session.camera screen viewport

/-- The pointer goes to a place, and turns the camera while it drags. -/
def mouseMoved (session : Session σ) (position : Vec2) : Session σ :=
  let mouse := session.mouse.move position
  if mouse.isDragging then
    let (delta, mouse) := mouse.takeDelta
    { session with
      mouse
      camera := session.camera.drag delta session.settings.input.dragSensitivity }
  else { session with mouse }

def mousePressed (session : Session σ) : Session σ :=
  { session with mouse := session.mouse.press }

/-- The button goes up; a click picks what is under the pointer. -/
def mouseReleased (session : Session σ) (viewport : Vec2) : Option Hit × Session σ :=
  let (click, mouse) := session.mouse.release
  (if click then session.pick mouse.position viewport else none, { session with mouse })

/-- The wheel turns, and the camera goes along its view. -/
def scroll (session : Session σ) (delta : Float32) : Session σ :=
  { session with camera := session.camera.scroll delta session.settings.input.scrollSensitivity }

/-! ### Events -/

def register (session : Session σ) (type : EventType) (handler : Handler σ) : Session σ :=
  { session with events := session.events.register type handler }

def dispatch (session : Session σ) : Session σ :=
  let (events, state) := session.events.dispatch session.state
  { session with events, state }

def drain (session : Session σ) : List Event × Session σ :=
  let (taken, events) := session.events.drain
  (taken, { session with events })

end Session

end VrmlWorld
