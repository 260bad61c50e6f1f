/-
  VrmlWorld/Proofs/Viewer/Runs.lean
  =================================
  **Runs of a session.**

  A host does one thing after the other with a session, and answers fetches in
  between, in whatever order and with whatever outcome. An `Operation` is one of
  these. A `Run` is a session with what has happened since its scene was loaded:
  the requests that frames have handed out, and the events that have been sent,
  whether or not they are still waiting.
-/
import VrmlWorld.Viewer.Session

namespace VrmlWorld

open VrmlWorld.Geometry

/-! ### The parts of a frame -/

namespace Session

variable {σ : Type}

/-- The session with all answers in its scene, and whether nodes have come in. -/
def published (session : Session σ) : Bool × Session σ :=
  session.loader.poll.1.foldl
    (fun reached result =>
      (reached.1 || (reached.2.publish result).1, (reached.2.publish result).2))
    (false, { session with loader := session.loader.poll.2 })

theorem publishAll_eq (session : Session σ) :
    session.publishAll =
      if session.published.1 then
        let refreshed := session.published.2.refreshViewpoints false
        if refreshed.active.isNone then (refreshed.setViewpoint 0).2 else refreshed
      else session.published.2 := rfl

/-- What each part of a frame keeps, whatever the frame is about. Drawing leaves
    of the renderer all but what it has made so far. -/
structure Kept (P : Session σ → Prop) : Prop where
  poll : ∀ session : Session σ, P session → P { session with loader := session.loader.poll.2 }
  publish : ∀ (session : Session σ) result, P session → P (session.publish result).2
  refresh : ∀ session : Session σ, P session → P (session.refreshViewpoints false)
  go : ∀ session : Session σ, P session → P (session.setViewpoint 0).2
  draw : ∀ (session : Session σ) renderer state, renderer.clear = session.renderer.clear →
    P session → P { session with renderer, state }
  ask : ∀ (session : Session σ) refusal request, P session →
    P (session.requestInline refusal request)
  giveUp : ∀ (session : Session σ) node reason, P session → P (session.failInline node reason)

namespace Kept

variable {P : Session σ → Prop} {session : Session σ}

theorem published (kept : Kept P) (start : P session) : P session.published.2 :=
  List.foldlRecOn (motive := fun (reached : Bool × Session σ) => P reached.2) _ _
    (kept.poll session start) fun reached before result _ => kept.publish reached.2 result before

theorem publishAll (kept : Kept P) (start : P session) : P session.publishAll := by
  have published := kept.published start
  rw [publishAll_eq]
  split
  · have refreshed := kept.refresh _ published
    dsimp only
    split
    · exact kept.go _ refreshed
    · exact refreshed
  · exact published

theorem frame (kept : Kept P) (start : P session) (viewport : Vec2)
    (refusal : InlineRequest → Option AssetError) : P (session.frame viewport refusal).2 := by
  have published := kept.publishAll start
  rw [Session.frame]
  dsimp only
  generalize session.publishAll = session at published
  generalize (if 0 < viewport.y then viewport.x / viewport.y else 1) = aspect
  have cleared : (session.renderer.render session.host session.state session.graph session.camera
      aspect).2.1.clear = session.renderer.clear := by
    rw [Renderer.render]
    cases session.graph.unfolding <;> rfl
  generalize session.renderer.render _ _ _ _ _ = answer at cleared
  obtain ⟨frame, renderer, state⟩ := answer
  simp only [← Array.foldl_toList]
  have drawn := kept.draw session renderer state cleared published
  have asked := List.foldlRecOn (motive := P) frame.pending.toList (requestInline refusal) drawn
    fun session before request _ => kept.ask session refusal request before
  exact List.foldlRecOn (motive := P) frame.unresolved.toList
    (fun session node => session.failInline node "unresolvable reference") asked
    fun session before node _ => kept.giveUp session node _ before

end Kept

end Session

/-! ### Operations -/

inductive Operation (σ : Type) where
  | loadScene (text : String) (base : Option Location)
  | loadLocation (location : Location) (answer : Except AssetError String)
  | frame (viewport : Vec2) (refusal : InlineRequest → Option AssetError)
  /-- The fetch at a position of the waiting list is answered. -/
  | complete (position : Nat) (answer : Except AssetError String)
  | setViewpoint (position : Nat)
  | setCamera (camera : Camera)
  | mouseMoved (position : Vec2)
  | mousePressed
  | mouseReleased (viewport : Vec2)
  | scroll (delta : Float32)
  | register (type : EventType) (handler : Handler σ)
  | dispatch
  | drain

namespace Operation

variable {σ : Type}

/-- The session with another scene, if the operation loads one. -/
def load? : Operation σ → Session σ → Option (Session σ)
  | .loadScene text base, session => (session.loadScene text base).toOption
  | .loadLocation location answer, session => (session.loadLocation location answer).toOption
  | _, _ => none

/-- The session behind an operation. One that fails leaves it as it was. -/
def perform (operation : Operation σ) (session : Session σ) : Session σ :=
  match operation with
  | .loadScene .. | .loadLocation .. => (operation.load? session).getD session
  | .frame viewport refusal => (session.frame viewport refusal).2
  | .complete position answer => session.complete position answer
  | .setViewpoint position => (session.setViewpoint position).2
  | .setCamera camera => { session with camera }
  | .mouseMoved position => session.mouseMoved position
  | .mousePressed => session.mousePressed
  | .mouseReleased viewport => (session.mouseReleased viewport).2
  | .scroll delta => session.scroll delta
  | .register type handler => session.register type handler
  | .dispatch => session.dispatch
  | .drain => session.drain.2

def begins (operation : Operation σ) (session : Session σ) : Bool :=
  (operation.load? session).isSome

def requests : Operation σ → Session σ → List InlineRequest
  | .frame viewport refusal, session => (session.frame viewport refusal).1.pending.toList
  | _, _ => []

/-- The events that an operation sends: those behind all that waited before. -/
def sends (operation : Operation σ) (session : Session σ) : List Event :=
  (operation.perform session).events.queue.drop session.events.queue.length

theorem sends_of_queue_eq {operation : Operation σ} {session : Session σ} {new : List Event}
    (h : (operation.perform session).events.queue = session.events.queue ++ new) :
    operation.sends session = new := by
  rw [sends, h, List.drop_left]

/-! ### Loads -/

theorem exists_of_load? {operation : Operation σ} {session next : Session σ}
    (h : operation.load? session = some next) :
    ∃ text graph stats base, Document.parse? text = some (graph, stats) ∧
      next = session.replaceScene { graph with base } := by
  have ofScene : ∀ text base, (session.loadScene text base).toOption = some next →
      ∃ text graph stats base, Document.parse? text = some (graph, stats) ∧
        next = session.replaceScene { graph with base } := by
    intro text base loaded
    rw [Session.loadScene] at loaded
    split at loaded
    · cases loaded
    · rename_i graph stats parsed
      cases loaded
      exact ⟨text, graph, stats, base, parsed, rfl⟩
  cases operation with
  | loadScene text base => exact ofScene text base h
  | loadLocation location answer =>
    cases answer with
    | error error => cases h
    | ok text => exact ofScene text (some location) h
  | _ => cases h

theorem perform_of_load? {operation : Operation σ} {session next : Session σ}
    (h : operation.load? session = some next) : operation.perform session = next := by
  cases operation with
  | loadScene text base => rw [perform, h, Option.getD_some]
  | loadLocation location answer => rw [perform, h, Option.getD_some]
  | _ => cases h

/-! ### Operations that leave the scene alone -/

/-- Whether an operation neither changes the scene nor sends events. -/
def isCalm : Operation σ → Bool
  | .loadScene .. | .loadLocation .. | .frame .. | .complete .. | .setViewpoint _ => false
  | _ => true

theorem length_offerAll_le (events : EventSystem σ) (waiting : List Event) (state : σ) :
    (events.offerAll waiting state).1.length ≤ waiting.length := by
  induction waiting generalizing state with
  | nil => exact Nat.le_refl 0
  | cons event others ih =>
    simp only [EventSystem.offerAll]
    generalize EventSystem.offer event _ state = answer
    obtain ⟨consumed, state⟩ := answer
    have shorter := ih state
    cases consumed with
    | true => exact Nat.le_succ_of_le shorter
    | false => exact Nat.succ_le_succ shorter

theorem perform_of_isCalm {operation : Operation σ} (calm : operation.isCalm = true)
    (session : Session σ) :
    (operation.perform session).graph = session.graph ∧
      (operation.perform session).loader = session.loader ∧
      operation.requests session = [] ∧ operation.sends session = [] := by
  have quiet : ∀ {next : Session σ}, next.events.queue = session.events.queue →
      next.events.queue.drop session.events.queue.length = [] := by
    intro next same
    rw [same, List.drop_length]
  cases operation with
  | loadScene | loadLocation | frame | complete | setViewpoint => cases calm
  | mouseMoved position =>
    rw [sends, perform, Session.mouseMoved]
    split
    · exact ⟨rfl, rfl, rfl, quiet rfl⟩
    · exact ⟨rfl, rfl, rfl, quiet rfl⟩
  | dispatch =>
    refine ⟨rfl, rfl, rfl, List.drop_eq_nil_of_le ?_⟩
    exact length_offerAll_le session.events session.events.queue session.state
  | drain => exact ⟨rfl, rfl, rfl, List.drop_nil⟩
  | _ => exact ⟨rfl, rfl, rfl, quiet rfl⟩

end Operation

/-! ### Runs -/

/-- A session with what has happened in its scene. -/
structure Run (σ : Type) where
  session : Session σ
  /-- What frames have asked for, the earliest first. -/
  requests : List InlineRequest := []
  /-- What has been told to the host, the earliest first. -/
  sent : List Event := []

namespace Run

variable {σ : Type}

/-- One operation more. Another scene begins with nothing. -/
def step (run : Run σ) (operation : Operation σ) : Run σ :=
  let earlier : Run σ := if operation.begins run.session then { session := run.session } else run
  { session := operation.perform run.session
    requests := earlier.requests ++ operation.requests run.session
    sent := earlier.sent ++ operation.sends run.session }

/-- Some operations, from the start of a session on. -/
def of (settings : Settings) (host : Host σ) (state : σ) (operations : List (Operation σ)) : Run σ :=
  operations.foldl step { session := .start settings host state }

/-- What holds at the start and is kept by every operation holds of every run. -/
theorem of_induction {P : Run σ → Prop} {settings : Settings} {host : Host σ} {state : σ}
    (start : P { session := .start settings host state })
    (step : ∀ run operation, P run → P (run.step operation)) (operations : List (Operation σ)) :
    P (of settings host state operations) :=
  List.foldlRecOn operations Run.step start fun run h operation _ => step run operation h

end Run

end VrmlWorld
