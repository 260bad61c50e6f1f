/-
  VrmlWorld/Proofs/Viewer/Heading.lean
  ====================================
  **How far up or down the camera looks.**

  A drag keeps the camera away from the upright. A viewpoint turns it along its own
  direction, however steep that is, and nothing takes the camera back to the limit
  before the next drag. A `Course` remembers what has turned the camera last. The
  pitch is always what that one has made of it, and within the limit unless it was
  a viewpoint, the host itself, or a drag whose movement was no number
  (`Course.pitch_is_of_heading`).
-/
import VrmlWorld.Proofs.Number.Order
import VrmlWorld.Proofs.Viewer.Viewpoints

namespace VrmlWorld

open VrmlWorld.Geometry Number

/-! ### Headings -/

/-- The direction that a viewpoint turns the camera along, unless it collapses. -/
def Viewpoint.forward? (viewpoint : Viewpoint) : Option Vec3 :=
  (viewpoint.world.mapVector
    ((Mat4.rotation viewpoint.camera.orientation).mapVector (-Vec3.near))).unit?

/-- What has turned the camera. -/
inductive Heading where
  /-- A scene has begun. -/
  | level
  /-- A viewpoint was gone to that looks along a direction. -/
  | along (viewpoint : Viewpoint) (forward : Vec3)
  /-- A drag has asked for a pitch. -/
  | dragged (asked : Float32)
  /-- The host has put the camera in its place. -/
  | placed (camera : Camera)

namespace Heading

def pitch : Heading → Float32
  | level => 0
  | along _ forward => -(clamp forward.y (-1) 1).asin
  | dragged asked => clamp asked (-Camera.pitchLimit) Camera.pitchLimit
  | placed camera => camera.pitch

end Heading

namespace Camera

/-- Whether a pitch lies between straight up and straight down, with the limits. -/
def Leans (pitch : Float32) : Prop := -pitchLimit ≤ pitch ∧ pitch ≤ pitchLimit

theorem leans_level : Leans 0 := by
  constructor <;> decide +kernel

theorem leans_clamp {asked : Float32} (number : asked.isNaN = false) :
    Leans (clamp asked (-pitchLimit) pitchLimit) := by
  have least : (-pitchLimit).isNaN = false := by decide +kernel
  have greatest : pitchLimit.isNaN = false := by decide +kernel
  rw [clamp]
  split
  · constructor <;> decide +kernel
  · rename_i aboveLeast
    split
    · constructor <;> decide +kernel
    · rename_i belowGreatest
      exact ⟨Single.le_of_not_lt least number aboveLeast,
        Single.le_of_not_lt number greatest belowGreatest⟩

theorem pitch_activate (camera : Camera) (viewpoint : Viewpoint) :
    (camera.activate viewpoint.camera viewpoint.world).pitch =
      (viewpoint.forward?.map fun forward => (Heading.along viewpoint forward).pitch).getD
        camera.pitch := by
  simp only [activate, lookAlong, ← Viewpoint.forward?.eq_1]
  cases viewpoint.forward? <;> rfl

end Camera

/-! ### The camera behind an operation -/

namespace Session

variable {σ : Type}

@[simp] theorem camera_publish (session : Session σ) (result : FetchResult) :
    (session.publish result).2.camera = session.camera := by
  rw [publish]
  split
  · split <;> rfl
  · rfl

@[simp] theorem camera_published (session : Session σ) :
    session.published.2.camera = session.camera :=
  List.foldlRecOn (motive := fun (reached : Bool × Session σ) => reached.2.camera = session.camera)
    _ _ rfl fun _ same result _ => (camera_publish _ result).trans same

@[simp] theorem camera_refreshViewpoints (session : Session σ) (force : Bool) :
    (session.refreshViewpoints force).camera = session.camera := by
  rw [refreshViewpoints]
  split <;> rfl

@[simp] theorem camera_setViewpoint (session : Session σ) (position : Nat) :
    (session.setViewpoint position).2.camera =
      ((session.viewpoints[position]?).map fun viewpoint =>
        session.camera.activate viewpoint.camera viewpoint.world).getD session.camera := by
  rw [setViewpoint]
  cases session.viewpoints[position]? with
  | none => rfl
  | some viewpoint =>
    dsimp only
    split <;> rfl

@[simp] theorem camera_requestInline (session : Session σ)
    (refusal : InlineRequest → Option AssetError) (request : InlineRequest) :
    (session.requestInline refusal request).camera = session.camera := by
  rw [requestInline]
  cases refusal request <;> rfl

/-- Only what has been published can turn the camera. -/
theorem camera_frame (session : Session σ) (viewport : Vec2)
    (refusal : InlineRequest → Option AssetError) :
    (session.frame viewport refusal).2.camera = session.publishAll.camera := by
  rw [frame]
  dsimp only
  generalize session.publishAll = session
  generalize session.renderer.render _ _ _ _ _ = answer
  obtain ⟨frame, renderer, state⟩ := answer
  simp only [← Array.foldl_toList]
  have asked := List.foldlRecOn (motive := (Session.camera · = session.camera))
    frame.pending.toList (requestInline refusal)
    (show Session.camera { session with renderer, state } = session.camera from rfl)
    fun _ same request _ => (camera_requestInline _ refusal request).trans same
  exact List.foldlRecOn (motive := (Session.camera · = session.camera)) frame.unresolved.toList
    (fun session node => session.failInline node "unresolvable reference") asked
    fun _ same _ _ => same

end Session

namespace Operation

variable {σ : Type}

/-- The camera that an operation goes to a viewpoint with. -/
def setsOut (operation : Operation σ) (session : Session σ) : Camera :=
  if operation.begins session then .ofSettings session.settings.camera else session.camera

/-- The heading of a viewpoint that is gone to, or of a scene that begins without. -/
def turned? (operation : Operation σ) (session : Session σ) : Option Heading :=
  match (operation.goesTo? session).bind fun gone => gone.2.forward?.map (.along gone.2) with
  | some heading => some heading
  | none => if operation.begins session then some .level else none

/-- The heading that an operation gives to the camera, if it does. -/
def heading? (operation : Operation σ) (session : Session σ) : Option Heading :=
  match operation with
  | .mouseMoved position =>
      let mouse := session.mouse.move position
      if mouse.isDragging then
        some (.dragged (session.camera.pitch +
          mouse.takeDelta.1.y * session.settings.input.dragSensitivity))
      else none
  | .setCamera camera => some (.placed camera)
  | operation => operation.turned? session

/-- Whether an operation may go to a viewpoint. -/
def travels : Operation σ → Bool
  | .loadScene .. | .loadLocation .. | .frame .. | .setViewpoint _ => true
  | _ => false

theorem camera_perform_of_load? {operation : Operation σ} {session next : Session σ}
    (loaded : operation.load? session = some next) :
    (operation.perform session).camera =
      ((next.viewpoints[0]?).map fun viewpoint =>
        (operation.setsOut session).activate viewpoint.camera viewpoint.world).getD
        (operation.setsOut session) := by
  rw [perform_of_load? loaded, setsOut, if_pos (by rw [begins, loaded]; rfl)]
  obtain ⟨text, graph, stats, base, -, rfl⟩ := exists_of_load? loaded
  simp [Session.replaceScene]

/-- An operation that only begins a scene, or does nothing, goes to the first
    viewpoint of that scene. -/
theorem camera_perform_of_loads {operation : Operation σ} {session : Session σ}
    (going : operation.goesTo? session =
      (operation.load? session).bind fun next => (next.viewpoints[0]?).map (0, ·))
    (stays : operation.load? session = none → operation.perform session = session) :
    (operation.perform session).camera =
      ((operation.goesTo? session).map fun gone =>
        (operation.setsOut session).activate gone.2.camera gone.2.world).getD
        (operation.setsOut session) := by
  cases loaded : operation.load? session with
  | some next =>
    rw [camera_perform_of_load? loaded, going, loaded, Option.bind_some, Option.map_map]
    rfl
  | none =>
    rw [going, loaded, stays loaded, setsOut, begins, loaded]
    rfl

/-- Scenes, frames and the choice of a viewpoint turn the camera only by going to a
    viewpoint. -/
theorem camera_perform_of_travels {operation : Operation σ} (session : Session σ)
    (travels : operation.travels = true) :
    (operation.perform session).camera =
      ((operation.goesTo? session).map fun gone =>
        (operation.setsOut session).activate gone.2.camera gone.2.world).getD
        (operation.setsOut session) := by
  cases operation with
  | loadScene text base =>
    exact camera_perform_of_loads rfl fun failed => by rw [perform, failed, Option.getD_none]
  | loadLocation location answer =>
    exact camera_perform_of_loads rfl fun failed => by rw [perform, failed, Option.getD_none]
  | frame viewport refusal =>
    rw [perform, Session.camera_frame, Session.publishAll_eq]
    simp only [goesTo?, setsOut, begins, load?, Option.isSome_none, Bool.false_eq_true, if_false]
    cases session.published.1 with
    | false => simp
    | true =>
      cases (session.published.2.refreshViewpoints false).active.isNone with
      | false => simp
      | true => simp [Option.map_map, Function.comp_def]
  | setViewpoint position =>
    simp [perform, goesTo?, setsOut, begins, load?, Option.map_map, Function.comp_def]
  | _ => cases travels

theorem pitch_setsOut (operation : Operation σ) (session : Session σ) :
    (operation.setsOut session).pitch =
      if operation.begins session then Heading.level.pitch else session.camera.pitch := by
  rw [setsOut]
  split <;> rfl

theorem pitch_perform_of_travels {operation : Operation σ} (session : Session σ)
    (travels : operation.travels = true) :
    (operation.perform session).camera.pitch =
      ((operation.turned? session).map Heading.pitch).getD session.camera.pitch := by
  rw [camera_perform_of_travels session travels, turned?]
  cases operation.goesTo? session with
  | none =>
    rw [Option.map_none, Option.getD_none, pitch_setsOut]
    cases operation.begins session <;> rfl
  | some gone =>
    rw [Option.map_some, Option.getD_some, Camera.pitch_activate, pitch_setsOut,
      Option.bind_some]
    cases gone.2.forward? with
    | none => cases operation.begins session <;> rfl
    | some forward => rfl

/-- What an operation makes of the pitch: that of the heading it gives, or what it was. -/
theorem pitch_perform (operation : Operation σ) (session : Session σ) :
    (operation.perform session).camera.pitch =
      ((operation.heading? session).map Heading.pitch).getD session.camera.pitch := by
  cases operation with
  | loadScene | loadLocation | frame | setViewpoint => exact pitch_perform_of_travels session rfl
  | mouseMoved position =>
    simp only [perform, Session.mouseMoved, heading?]
    split <;> rfl
  | _ => rfl

theorem forward?_of_turned? {operation : Operation σ} {session : Session σ}
    {viewpoint : Viewpoint} {forward : Vec3}
    (turned : operation.turned? session = some (.along viewpoint forward)) :
    viewpoint.forward? = some forward := by
  rw [turned?] at turned
  split at turned
  · rename_i heading goes
    obtain ⟨gone, -, along⟩ := Option.bind_eq_some_iff.1 goes
    obtain ⟨own, isOwn, rfl⟩ := Option.map_eq_some_iff.1 along
    cases turned
    exact isOwn
  · cases begins : operation.begins session <;> simp [begins] at turned

theorem forward?_of_heading? {operation : Operation σ} {session : Session σ}
    {viewpoint : Viewpoint} {forward : Vec3}
    (turned : operation.heading? session = some (.along viewpoint forward)) :
    viewpoint.forward? = some forward := by
  have ofTurned : operation.turned? session = some (.along viewpoint forward) →
      viewpoint.forward? = some forward := forward?_of_turned?
  cases operation with
  | mouseMoved position =>
    simp only [heading?] at turned
    split at turned <;> cases turned
  | setCamera camera => cases turned
  | _ => exact ofTurned turned

end Operation

/-! ### Courses -/

/-- A run with what has turned the camera last. -/
structure Course (σ : Type) where
  run : Run σ
  heading : Heading := .level

namespace Course

variable {σ : Type}

def step (course : Course σ) (operation : Operation σ) : Course σ where
  run := course.run.step operation
  heading := (operation.heading? course.run.session).getD course.heading

/-- Some operations, from the start of a session on. -/
def of (settings : Settings) (host : Host σ) (state : σ) (operations : List (Operation σ)) :
    Course σ :=
  operations.foldl step { run := { session := .start settings host state } }

/-- The pitch is that of the heading, and a heading along a viewpoint is along its
    own direction. -/
structure Steered (course : Course σ) : Prop where
  pitch : course.run.session.camera.pitch = course.heading.pitch
  along : ∀ viewpoint forward, course.heading = .along viewpoint forward →
    viewpoint.forward? = some forward

theorem steered_start (settings : Settings) (host : Host σ) (state : σ) :
    Steered { run := { session := .start settings host state } } where
  pitch := rfl
  along _ _ same := nomatch same

theorem Steered.step {course : Course σ} (steered : course.Steered) (operation : Operation σ) :
    (course.step operation).Steered where
  pitch := by
    show (operation.perform course.run.session).camera.pitch = _
    rw [Operation.pitch_perform, steered.pitch, Course.step]
    cases operation.heading? course.run.session <;> rfl
  along := by
    intro viewpoint forward same
    simp only [Course.step] at same
    cases given : operation.heading? course.run.session with
    | none =>
      rw [given] at same
      exact steered.along viewpoint forward same
    | some heading =>
      rw [given] at same
      obtain rfl : heading = .along viewpoint forward := same
      exact Operation.forward?_of_heading? given

/-- Behind any operations the camera's pitch is that of its heading. It is within the
    limit, except along a viewpoint that looks more steeply, behind a drag that asked
    for what is no number, and where the host itself has put the camera. -/
theorem pitch_is_of_heading (settings : Settings) (host : Host σ) (state : σ)
    (operations : List (Operation σ)) :
    let course := of settings host state operations
    let pitch := course.run.session.camera.pitch
    pitch = course.heading.pitch ∧
      (Camera.Leans pitch ∨
        (∃ viewpoint forward, course.heading = .along viewpoint forward ∧
          viewpoint.forward? = some forward) ∨
        (∃ asked, course.heading = .dragged asked ∧ asked.isNaN = true) ∨
        ∃ camera, course.heading = .placed camera) := by
  intro course pitch
  have steered : course.Steered :=
    List.foldlRecOn operations step (steered_start settings host state)
      fun _ steered operation _ => steered.step operation
  refine ⟨steered.pitch, ?_⟩
  have same : pitch = course.heading.pitch := steered.pitch
  rw [same]
  cases heading : course.heading with
  | level => exact .inl Camera.leans_level
  | along viewpoint forward =>
    exact .inr (.inl ⟨viewpoint, forward, rfl, steered.along viewpoint forward heading⟩)
  | dragged asked =>
    cases number : asked.isNaN with
    | false => exact .inl (Camera.leans_clamp number)
    | true => exact .inr (.inr (.inl ⟨asked, rfl, number⟩))
  | placed camera => exact .inr (.inr (.inr ⟨camera, rfl⟩))

end Course

end VrmlWorld
