/-
  VrmlWorld/Proofs/Viewer/Journal.lean
  ====================================
  **The events of a session are a journal of its viewpoints.**

  A host that shows the viewpoints in a menu goes by two events: one says how many
  there are now, the other which one has been gone to. `Menu` is what it shows. A
  position that was active before can be lost without an event of its own, whenever
  the number of viewpoints is told; and what has not changed is not told again.
  Still a host that has heard everything since the session was made is never
  mistaken (`Run.menu_of_journal`).

  Only a whole operation keeps the host up to date. While another scene is being
  set up the session has no active viewpoint, and the host has not heard of it.
-/
import VrmlWorld.Proofs.Render.Visits
import VrmlWorld.Proofs.Viewer.Runs

namespace VrmlWorld

open VrmlWorld.Geometry

/-! ### What a host shows -/

/-- The number of viewpoints, and the position of the active one. -/
structure Menu where
  count : Nat := 0
  active : Option Nat := none
deriving DecidableEq, Repr

namespace Menu

/-- The menu behind an event. A position that is no longer one of a viewpoint is
    not active any more. -/
def hear (menu : Menu) (event : Event) : Menu :=
  match event.type with
  | .viewpointsChanged =>
      match event.count with
      | some count => { count, active := menu.active.filter (· < count) }
      | none => menu
  | .activeViewpointChanged =>
      match event.index with
      | some index => { menu with active := some index }
      | none => menu
  | .inlineLoaded | .inlineFailed => menu

/-- The active position is that of a viewpoint. -/
def InRange (menu : Menu) : Prop :=
  ∀ position, menu.active = some position → position < menu.count

theorem inRange_of_active_eq_none {menu : Menu} (none_active : menu.active = none) :
    menu.InRange := by
  intro position active
  rw [none_active] at active
  cases active

theorem inRange_filter (count : Nat) (active : Option Nat) :
    InRange { count, active := active.filter (· < count) } := by
  intro position isActive
  exact of_decide_eq_true (Option.filter_eq_some_iff.1 isActive).2

theorem InRange.filter_active {menu : Menu} (inRange : menu.InRange) :
    menu.active.filter (· < menu.count) = menu.active := by
  cases isActive : menu.active with
  | none => rfl
  | some position =>
    exact Option.filter_eq_some_iff.2 ⟨rfl, decide_eq_true (inRange position isActive)⟩

end Menu

/-! ### Sessions and their journals -/

namespace Session

variable {σ : Type}

def menu (session : Session σ) : Menu where
  count := session.viewpoints.length
  active := session.active

/-- A session on the way through an operation that began as `origin`: a host that
    was up to date then, and has heard the events that have been added, is up to
    date now. -/
structure Told (origin session : Session σ) : Prop where
  inRange : session.menu.InRange
  heard : ∃ new, session.events.queue = origin.events.queue ++ new ∧
    new.foldl Menu.hear origin.menu = session.menu

namespace Told

variable {origin session next : Session σ}

theorem begin (inRange : session.menu.InRange) : session.Told session where
  inRange := inRange
  heard := ⟨[], by simp, rfl⟩

/-- Nothing is said when nothing has changed. -/
theorem silent (told : origin.Told session) (sameEvents : next.events = session.events)
    (same : next.menu = session.menu) : origin.Told next where
  inRange := same ▸ told.inRange
  heard := by
    rw [sameEvents, same]
    exact told.heard

/-- What is said is what has changed. -/
theorem tell (told : origin.Told session) {event : Event}
    (sent : next.events = session.events.send event)
    (change : session.menu.hear event = next.menu) (inRange : next.menu.InRange) :
    origin.Told next := by
  obtain ⟨new, queue, replay⟩ := told.heard
  refine ⟨inRange, new ++ [event], ?_, ?_⟩
  · rw [sent, EventSystem.send, queue, List.append_assoc]
  · rw [List.foldl_append, replay]
    exact change

theorem refreshViewpoints (told : origin.Told session) (force : Bool) :
    origin.Told (session.refreshViewpoints force) := by
  rw [Session.refreshViewpoints]
  split
  · apply told.tell rfl rfl
    exact Menu.inRange_filter _ session.active
  · rename_i unchanged
    have sameCount :
        (session.graph.viewpoints session.camera.position).length = session.viewpoints.length := by
      rw [Bool.or_eq_true, bne_iff_ne, not_or, Decidable.not_not] at unchanged
      exact unchanged.2
    refine told.silent rfl ?_
    rw [menu, menu, sameCount]
    exact congrArg (Menu.mk _) told.inRange.filter_active

theorem setViewpoint (told : origin.Told session) (position : Nat) :
    origin.Told (session.setViewpoint position).2 := by
  rw [Session.setViewpoint]
  cases found : session.viewpoints[position]? with
  | none => exact told
  | some viewpoint =>
    dsimp only
    split
    · exact told.silent rfl rfl
    · apply told.tell rfl rfl
      rintro other ⟨⟩
      exact (List.getElem?_eq_some_iff.1 found).1

theorem failInline (told : origin.Told session) (node : NodeId) (reason : String) :
    origin.Told (session.failInline node reason) :=
  told.tell rfl rfl told.inRange

theorem publish (told : origin.Told session) (result : FetchResult) :
    origin.Told (session.publish result).2 := by
  rw [Session.publish]
  split
  · split
    · exact told.tell rfl rfl told.inRange
    · exact told
  · exact told.failInline ..

theorem requestInline (told : origin.Told session) (refusal : InlineRequest → Option AssetError)
    (request : InlineRequest) : origin.Told (session.requestInline refusal request) := by
  rw [Session.requestInline]
  cases refusal request with
  | none => exact told.silent rfl rfl
  | some error =>
    apply failInline
    exact told.silent rfl rfl

theorem kept (origin : Session σ) : Kept (origin.Told ·) where
  poll _ told := told.silent rfl rfl
  publish _ result told := told.publish result
  refresh _ told := told.refreshViewpoints false
  go _ told := told.setViewpoint 0
  draw _ _ _ _ told := told.silent rfl rfl
  ask _ refusal request told := told.requestInline refusal request
  giveUp _ node reason told := told.failInline node reason

/-- Another scene is told of by the number of its viewpoints, which drops what was
    active before unless it is the first one that is gone to. -/
theorem replaceScene (origin : Session σ) (graph : SceneGraph) :
    origin.Told (origin.replaceScene graph) := by
  rw [Session.replaceScene]
  generalize begun : Session.refreshViewpoints _ true = session
  have active : session.active = none := by
    rw [← begun]
    rfl
  have queue : session.events.queue =
      origin.events.queue ++ [.viewpointsChanged session.viewpoints.length] := by
    rw [← begun]
    rfl
  rw [Session.setViewpoint]
  cases found : session.viewpoints[0]? with
  | none =>
    have no_viewpoints : session.viewpoints.length = 0 :=
      Nat.le_zero.1 (List.getElem?_eq_none_iff.1 found)
    have behind : session.menu = {} := by rw [menu, active, no_viewpoints]
    refine ⟨Menu.inRange_of_active_eq_none active, _, queue, ?_⟩
    rw [behind, no_viewpoints]
    cases before : origin.active <;> simp [Menu.hear, Event.viewpointsChanged, menu, before]
  | some viewpoint =>
    dsimp only
    rw [if_neg (by simp [active])]
    refine ⟨?_, [.viewpointsChanged session.viewpoints.length, .activeViewpointChanged 0], ?_, rfl⟩
    · rintro position ⟨⟩
      exact (List.getElem?_eq_some_iff.1 found).1
    · simp [Session.send, EventSystem.send, queue]

end Told

end Session

/-! ### Journals of runs -/

namespace Operation

variable {σ : Type}

/-- All events that some operations send, the earliest first. -/
def journal (operations : List (Operation σ)) (session : Session σ) : List Event :=
  trail perform sends operations session

/-- Every operation tells what it changes, and an answer to a fetch changes
    nothing before the next frame. -/
theorem hear_sends (operation : Operation σ) {session : Session σ}
    (inRange : session.menu.InRange) :
    (operation.sends session).foldl Menu.hear session.menu =
        (operation.perform session).menu ∧
      (operation.perform session).menu.InRange := by
  have of_told (told : session.Told (operation.perform session)) :
      (operation.sends session).foldl Menu.hear session.menu =
          (operation.perform session).menu ∧
        (operation.perform session).menu.InRange := by
    obtain ⟨new, queue, replay⟩ := told.heard
    rw [sends_of_queue_eq queue]
    exact ⟨replay, told.inRange⟩
  have of_calm (calm : operation.isCalm = true)
      (same : (operation.perform session).menu = session.menu) :
      (operation.sends session).foldl Menu.hear session.menu =
          (operation.perform session).menu ∧
        (operation.perform session).menu.InRange := by
    obtain ⟨-, -, -, nothing⟩ := perform_of_isCalm calm session
    rw [nothing, same]
    exact ⟨rfl, inRange⟩
  have start := Session.Told.begin inRange
  have load (loaded : operation.perform session = (operation.load? session).getD session) :
      session.Told (operation.perform session) := by
    cases begun : operation.load? session with
    | none =>
      rw [loaded, begun]
      exact start
    | some next =>
      obtain ⟨text, graph, stats, base, -, rfl⟩ := exists_of_load? begun
      rw [loaded, begun]
      exact .replaceScene session _
  cases operation with
  | loadScene text base => exact of_told (load rfl)
  | loadLocation location answer => exact of_told (load rfl)
  | frame viewport refusal =>
    exact of_told ((Session.Told.kept session).frame start viewport refusal)
  | complete position answer => exact of_told (start.silent rfl rfl)
  | setViewpoint position => exact of_told (start.setViewpoint position)
  | mouseMoved position =>
    apply of_calm rfl
    rw [perform, Session.mouseMoved]
    split <;> rfl
  | _ => exact of_calm rfl rfl

end Operation

namespace Run

variable {σ : Type}

theorem menu_foldl_step (run : Run σ) (operations : List (Operation σ))
    (inRange : run.session.menu.InRange) :
    (Operation.journal operations run.session).foldl Menu.hear run.session.menu =
      (operations.foldl step run).session.menu := by
  induction operations generalizing run with
  | nil => rfl
  | cons operation operations ih =>
    obtain ⟨told, stays⟩ := operation.hear_sends inRange
    rw [Operation.journal, trail, List.foldl_append, told, List.foldl_cons]
    exact ih (run.step operation) stays

/-- A host that starts from no viewpoints, and hears all events in their order,
    knows after every run how many viewpoints there are and which is active. -/
theorem menu_of_journal (settings : Settings) (host : Host σ) (state : σ)
    (operations : List (Operation σ)) :
    (Operation.journal operations (.start settings host state)).foldl Menu.hear {} =
      (of settings host state operations).session.menu :=
  menu_foldl_step { session := .start settings host state } operations
    (Menu.inRange_of_active_eq_none rfl)

end Run

end VrmlWorld
