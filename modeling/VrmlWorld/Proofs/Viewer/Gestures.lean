/-
  VrmlWorld/Proofs/Viewer/Gestures.lean
  =====================================
  **Clicks and drags.**

  From where the button goes down until it is released, every movement of the
  pointer to a place that is far from there turns the camera, and no other does.
  Whether the gesture was a click is told from its last place alone, at the moment
  of the release (`Gesture.release_picks_at_near_place`). A pointer that goes far
  away and comes back has therefore turned the camera and picks all the same
  (`Gesture.picks_behind_turn`); one that does not come back picks only if it has
  never turned the camera (`Gesture.release_of_no_return`).
-/
import VrmlWorld.Proofs.Viewer.Isolation

namespace VrmlWorld

open VrmlWorld.Geometry

/-! ### A place and itself -/

namespace Number.Single

open Float.Model

/-- The value that is no number. -/
def undefined : Float32 := .ofModel (.pack .notANumber)

theorem unpacked_sub_self_cases (value : UnpackedFloat) :
    value.sub .binary32 value = .zero .positive ∨ value.sub .binary32 value = .notANumber := by
  cases value with
  | notANumber => exact .inr rfl
  | infinity sign => cases sign <;> exact .inr rfl
  | zero sign => cases sign <;> exact .inl rfl
  | finite sign mantissa exponent positive =>
    left
    dsimp only [UnpackedFloat.sub]
    rw [Int.sub_self]
    rfl

/-- What is left of a value less itself: nothing, or no number if the value is infinite or none. -/
theorem sub_self_cases (a : Float32) : a - a = 0 ∨ a - a = undefined := by
  have packed : a - a =
      .ofModel (.pack (a.toModel.unpack.sub .binary32 a.toModel.unpack)) := rfl
  rcases unpacked_sub_self_cases a.toModel.unpack with zero | missing
  · left
    rw [packed, zero]
    rfl
  · right
    rw [packed, missing]
    rfl

end Number.Single

/-- A pointer that has not been moved since the button went down does not drag. -/
theorem Mouse.near_itself (place : Vec2) : ¬dragThreshold ≤ (place - place).norm := by
  have same : place - place = ⟨place.x - place.x, place.y - place.y⟩ := rfl
  rw [same]
  rcases Number.Single.sub_self_cases place.x with x | x <;>
    rcases Number.Single.sub_self_cases place.y with y | y <;>
    rw [x, y] <;> decide +kernel

/-! ### The mouse behind an operation -/

namespace Session

variable {σ : Type}

theorem mouse_refreshViewpoints (session : Session σ) (force : Bool) :
    (session.refreshViewpoints force).mouse = session.mouse := by
  rw [refreshViewpoints]
  split <;> rfl

theorem mouse_setViewpoint (session : Session σ) (position : Nat) :
    (session.setViewpoint position).2.mouse = session.mouse := by
  rw [setViewpoint]
  split
  · rfl
  · dsimp only
    split <;> rfl

theorem mouse_replaceScene (session : Session σ) (graph : SceneGraph) :
    (session.replaceScene graph).mouse = session.mouse := by
  rw [replaceScene, mouse_setViewpoint, mouse_refreshViewpoints]

theorem kept_mouse (mouse : Mouse) : Kept fun session : Session σ => session.mouse = mouse where
  poll _ same := same
  publish session result same := by
    rw [publish]
    split
    · split <;> exact same
    · exact same
  refresh session same := (session.mouse_refreshViewpoints false).trans same
  go session same := (session.mouse_setViewpoint 0).trans same
  draw _ _ _ _ same := same
  ask session refusal request same := by
    rw [requestInline]
    cases refusal request <;> exact same
  giveUp _ _ _ same := same

/-- A movement that drags turns the camera, by the way from where the last such one had led. -/
theorem mouseMoved_eq (session : Session σ) (place : Vec2) :
    let dragging := (session.mouse.move place).isDragging
    session.mouseMoved place =
      { session with
        mouse.position := place
        mouse.last := if dragging then place else session.mouse.last
        camera :=
          if dragging then
            session.camera.drag (place - session.mouse.last) session.settings.input.dragSensitivity
          else session.camera } := by
  intro dragging
  rw [mouseMoved]
  dsimp only
  by_cases drags : dragging = true
  · have held : (session.mouse.move place).pressed.isSome = true := by
      rcases pressed : session.mouse.pressed with _ | start
      · simp only [dragging, Mouse.isDragging, Mouse.move, pressed] at drags
        cases drags
      · exact congrArg Option.isSome pressed
    rw [if_pos drags, if_pos drags, if_pos drags, Mouse.takeDelta, if_pos held]
    rfl
  · rw [if_neg drags, if_neg drags, if_neg drags]
    rfl

end Session

namespace Operation

variable {σ : Type}

/-- Whether an operation is one of the mouse. -/
def isManual : Operation σ → Bool
  | .mouseMoved _ | .mousePressed | .mouseReleased _ => true
  | _ => false

theorem mouse_perform {operation : Operation σ} (aside : operation.isManual = false)
    (session : Session σ) : (operation.perform session).mouse = session.mouse := by
  have load : ((operation.load? session).getD session).mouse = session.mouse := by
    rcases loaded : operation.load? session with _ | next
    · rfl
    · obtain ⟨text, graph, stats, base, -, rfl⟩ := exists_of_load? loaded
      exact session.mouse_replaceScene _
  cases operation with
  | mouseMoved | mousePressed | mouseReleased => cases aside
  | loadScene | loadLocation => exact load
  | frame viewport refusal => exact (Session.kept_mouse session.mouse).frame rfl viewport refusal
  | setViewpoint position => exact session.mouse_setViewpoint position
  | _ => rfl

end Operation

/-! ### Gestures -/

/-- A movement of the pointer, with the camera before and behind it. -/
structure Movement where
  place : Vec2
  before : Camera
  behind : Camera

/-- Where the button went down, and how the pointer has been moved since. -/
structure Hold where
  start : Vec2
  /-- The latest first. -/
  movements : List Movement := []

namespace Hold

/-- Whether a place is so far from where the button went down that a pointer there drags. -/
def far (hold : Hold) (place : Vec2) : Bool := Mouse.dragThreshold ≤ (place - hold.start).norm

/-- Where the pointer is. -/
def latest (hold : Hold) : Vec2 := (hold.movements.head?.map (·.place)).getD hold.start

/-- Whether the pointer has not been moved, or to a near place in the end. -/
def endsNear (hold : Hold) : Bool :=
  !hold.movements.head?.any fun movement => hold.far movement.place

theorem far_latest (hold : Hold) : hold.far hold.latest = !hold.endsNear := by
  rw [endsNear, latest, Bool.not_not]
  rcases hold.movements with _ | ⟨movement, others⟩
  · exact decide_eq_false (Mouse.near_itself hold.start)
  · rfl

/-- A pointer that does not come back from a far place ends near exactly if it has always been
    near. -/
theorem endsNear_of_no_return {hold : Hold}
    (no_return : hold.movements.Pairwise fun later earlier =>
      hold.far earlier.place = true → hold.far later.place = true) :
    hold.endsNear = !hold.movements.any fun movement => hold.far movement.place := by
  rw [endsNear]
  generalize hold.movements = movements at no_return ⊢
  rcases movements with _ | ⟨last, earlier⟩
  · rfl
  · cases ends : hold.far last.place with
    | true => simp [ends]
    | false =>
      have all_near : ∀ movement ∈ earlier, hold.far movement.place = false := by
        intro movement behind
        rw [← Bool.not_eq_true]
        intro far
        have stays := (List.pairwise_cons.1 no_return).1 movement behind far
        rw [ends] at stays
        cases stays
      simpa [ends] using all_near

/-- The latest far place, or else where the button went down. -/
def turnedAt (hold : Hold) : Vec2 :=
  ((hold.movements.map (·.place)).find? hold.far).getD hold.start

/-- Movements to far places, and no others, have turned the camera, each by the way from where the
    one before it had led. -/
def Turns (hold : Hold) (sensitivity : Float32) : Prop :=
  ∀ movement earlier, movement :: earlier <:+ hold.movements →
    movement.behind =
      if hold.far movement.place then
        movement.before.drag
          (movement.place - turnedAt { hold with movements := earlier }) sensitivity
      else movement.before

variable {hold : Hold} {movement : Movement}

theorem turnedAt_cons :
    turnedAt { hold with movements := movement :: hold.movements } =
      if hold.far movement.place then movement.place else hold.turnedAt := by
  change ((movement.place :: hold.movements.map (·.place)).find? hold.far).getD hold.start = _
  by_cases far : hold.far movement.place = true
  · rw [List.find?_cons_of_pos far, if_pos far]
    rfl
  · rw [List.find?_cons_of_neg far, if_neg far]
    rfl

theorem Turns.cons {sensitivity : Float32} (turns : hold.Turns sensitivity)
    (turned : movement.behind =
      if hold.far movement.place then
        movement.before.drag (movement.place - hold.turnedAt) sensitivity
      else movement.before) :
    Turns { hold with movements := movement :: hold.movements } sensitivity := by
  intro latest earlier inside
  rcases List.suffix_cons_iff.1 inside with same | behind
  · cases same
    exact turned
  · exact turns latest earlier behind

end Hold

/-- A run with what the mouse is about. -/
structure Gesture (σ : Type) where
  run : Run σ
  /-- Where the pointer has been moved to last. -/
  place : Vec2 := .zero
  /-- How the button is held, if it is. -/
  hold : Option Hold := none

namespace Gesture

variable {σ : Type} {gesture : Gesture σ}

def step (gesture : Gesture σ) (operation : Operation σ) : Gesture σ :=
  let run := gesture.run.step operation
  match operation with
  | .mousePressed => { gesture with run, hold := some { start := gesture.place } }
  | .mouseReleased _ => { gesture with run, hold := none }
  | .mouseMoved place =>
      let movement := ⟨place, gesture.run.session.camera, run.session.camera⟩
      { run
        place
        hold := gesture.hold.map fun hold =>
          { hold with movements := movement :: hold.movements } }
  | _ => { gesture with run }

/-- Some operations, from the start of a session on. -/
def of (settings : Settings) (host : Host σ) (state : σ) (operations : List (Operation σ)) :
    Gesture σ :=
  operations.foldl step { run := { session := .start settings host state } }

theorem step_of_aside {operation : Operation σ} (aside : operation.isManual = false) :
    gesture.step operation = { gesture with run := gesture.run.step operation } := by
  cases operation with
  | mouseMoved | mousePressed | mouseReleased => cases aside
  | _ => rfl

/-- The mouse is where the pointer has been moved to, and is held where the button went down. -/
structure Tracked (gesture : Gesture σ) (settings : Settings) : Prop where
  settings_eq : gesture.run.session.settings = settings
  position : gesture.run.session.mouse.position = gesture.place
  pressed : gesture.run.session.mouse.pressed = gesture.hold.map (·.start)
  latest : ∀ hold, gesture.hold = some hold → gesture.place = hold.latest
  last : ∀ hold, gesture.hold = some hold → gesture.run.session.mouse.last = hold.turnedAt
  turns : ∀ hold, gesture.hold = some hold → hold.Turns settings.input.dragSensitivity

namespace Tracked

variable {settings : Settings}

theorem start (settings : Settings) (host : Host σ) (state : σ) :
    Tracked { run := { session := .start settings host state } } settings where
  settings_eq := rfl
  position := rfl
  pressed := rfl
  latest _ held := nomatch held
  last _ held := nomatch held
  turns _ held := nomatch held

theorem isDragging (tracked : gesture.Tracked settings) :
    gesture.run.session.mouse.isDragging = gesture.hold.any fun hold => hold.far gesture.place := by
  rw [Mouse.isDragging, tracked.pressed, tracked.position]
  cases gesture.hold <;> rfl

theorem press (tracked : gesture.Tracked settings) :
    (gesture.step .mousePressed).Tracked settings where
  settings_eq := tracked.settings_eq
  position := tracked.position
  pressed := congrArg some tracked.position
  latest := by
    rintro hold ⟨⟩
    rfl
  last := by
    rintro hold ⟨⟩
    exact tracked.position
  turns := by
    rintro hold ⟨⟩ movement earlier inside
    cases List.eq_nil_of_suffix_nil inside

theorem release (tracked : gesture.Tracked settings) (viewport : Vec2) :
    (gesture.step (.mouseReleased viewport)).Tracked settings where
  settings_eq := tracked.settings_eq
  position := tracked.position
  pressed := rfl
  latest _ held := nomatch held
  last _ held := nomatch held
  turns _ held := nomatch held

theorem move (tracked : gesture.Tracked settings) (place : Vec2) :
    (gesture.step (.mouseMoved place)).Tracked settings := by
  have moved := gesture.run.session.mouseMoved_eq place
  have dragging {hold : Hold} (held : gesture.hold = some hold) :
      (gesture.run.session.mouse.move place).isDragging = hold.far place := by
    rw [Mouse.isDragging, Mouse.move, tracked.pressed, held]
    rfl
  constructor
  · exact (congrArg (·.settings) moved).trans tracked.settings_eq
  · exact congrArg (·.mouse.position) moved
  · refine ((congrArg (·.mouse.pressed) moved).trans tracked.pressed).trans ?_
    rw [Gesture.step, Option.map_map]
    rfl
  · intro hold held
    obtain ⟨before, -, rfl⟩ := Option.map_eq_some_iff.1 held
    rfl
  · intro hold held
    obtain ⟨before, found, rfl⟩ := Option.map_eq_some_iff.1 held
    rw [Hold.turnedAt_cons, ← tracked.last before found, ← dragging found]
    exact congrArg (·.mouse.last) moved
  · intro hold held
    obtain ⟨before, found, rfl⟩ := Option.map_eq_some_iff.1 held
    apply (tracked.turns before found).cons
    rw [← tracked.last before found, ← dragging found, ← tracked.settings_eq]
    exact congrArg (·.camera) moved

theorem aside (tracked : gesture.Tracked settings) {operation : Operation σ}
    (aside : operation.isManual = false) : (gesture.step operation).Tracked settings := by
  have mouse := operation.mouse_perform aside gesture.run.session
  rw [step_of_aside aside]
  constructor
  · exact (operation.akin_perform _).settings.trans tracked.settings_eq
  · exact (congrArg Mouse.position mouse).trans tracked.position
  · exact (congrArg Mouse.pressed mouse).trans tracked.pressed
  · exact tracked.latest
  · intro hold held
    exact (congrArg Mouse.last mouse).trans (tracked.last hold held)
  · exact tracked.turns

theorem step (tracked : gesture.Tracked settings) (operation : Operation σ) :
    (gesture.step operation).Tracked settings := by
  cases operation with
  | mouseMoved place => exact tracked.move place
  | mousePressed => exact tracked.press
  | mouseReleased viewport => exact tracked.release viewport
  | _ => exact tracked.aside rfl

theorem mouseReleased (tracked : gesture.Tracked settings) (viewport : Vec2) :
    (gesture.run.session.mouseReleased viewport).1 =
      if gesture.hold.any (·.endsNear) then gesture.run.session.pick gesture.place viewport
      else none := by
  have click : gesture.run.session.mouse.release.1 = gesture.hold.any (·.endsNear) := by
    rw [Mouse.release, tracked.isDragging, tracked.pressed]
    rcases held : gesture.hold with _ | hold
    · rfl
    · simp [tracked.latest hold held, hold.far_latest]
  have place : gesture.run.session.mouse.release.2.position = gesture.place := tracked.position
  rw [Session.mouseReleased, ← click, ← place]

end Tracked

theorem tracked_of (settings : Settings) (host : Host σ) (state : σ)
    (operations : List (Operation σ)) : (of settings host state operations).Tracked settings :=
  List.foldlRecOn (motive := fun gesture : Gesture σ => gesture.Tracked settings) operations
    Gesture.step (Tracked.start settings host state) fun _ tracked operation _ =>
      tracked.step operation

/-- Since the button went down, the camera has been turned by the movements to far places and by no
    others. A release picks exactly if the button is held and the pointer has not been moved since,
    or to a near place in the end. -/
theorem release_picks_at_near_place (settings : Settings) (host : Host σ) (state : σ)
    (operations : List (Operation σ)) :
    let gesture := of settings host state operations
    let session := gesture.run.session
    (∀ hold, gesture.hold = some hold → hold.Turns settings.input.dragSensitivity) ∧
      ∀ viewport, (session.mouseReleased viewport).1 =
        if gesture.hold.any (·.endsNear) then session.pick gesture.place viewport else none := by
  intro gesture session
  have tracked : gesture.Tracked settings := tracked_of settings host state operations
  exact ⟨tracked.turns, tracked.mouseReleased⟩

/-- The pointer has been far away, and the camera has turned with it. Back where the button went
    down it picks. -/
theorem picks_behind_turn :
    let operations : List (Operation Unit) :=
      [.mousePressed, .mouseMoved ⟨6, 0⟩, .mouseMoved ⟨0, 0⟩]
    let gesture := of {} (Run.bareHost Unit id) () operations
    let session := gesture.run.session
    (∃ hold, gesture.hold = some hold ∧
      ∃ movement ∈ hold.movements, movement.behind ≠ movement.before) ∧
      ∀ viewport, (session.mouseReleased viewport).1 = session.pick ⟨0, 0⟩ viewport := by
  intro operations gesture session
  have turned : (gesture.hold.any fun hold =>
      hold.movements.any fun movement => movement.behind ≠ movement.before) = true := by
    decide +kernel
  have near : gesture.hold.any (·.endsNear) = true := by decide +kernel
  obtain ⟨hold, held, turned⟩ := (Option.any_eq_true _ _).1 turned
  obtain ⟨movement, inside, differs⟩ := List.any_eq_true.1 turned
  refine ⟨⟨hold, held, movement, inside, of_decide_eq_true differs⟩, fun viewport => ?_⟩
  obtain ⟨-, picks⟩ := release_picks_at_near_place {} (Run.bareHost Unit id) () operations
  exact (picks viewport).trans (if_pos near)

/-- A pointer that does not come back from a far place is released into a pick exactly if no
    movement since the button went down was far from there, and so none has turned the camera. -/
theorem release_of_no_return (settings : Settings) (host : Host σ) (state : σ)
    (operations : List (Operation σ)) {hold : Hold}
    (held : (of settings host state operations).hold = some hold)
    (no_return : hold.movements.Pairwise fun later earlier =>
      hold.far earlier.place = true → hold.far later.place = true) (viewport : Vec2) :
    let gesture := of settings host state operations
    let session := gesture.run.session
    (session.mouseReleased viewport).1 =
      if hold.movements.any fun movement => hold.far movement.place then none
      else session.pick gesture.place viewport := by
  intro gesture session
  have released := (tracked_of settings host state operations).mouseReleased viewport
  rw [held, Option.any_some, Hold.endsNear_of_no_return no_return] at released
  refine released.trans ?_
  cases hold.movements.any fun movement => hold.far movement.place <;> rfl

end Gesture

end VrmlWorld
