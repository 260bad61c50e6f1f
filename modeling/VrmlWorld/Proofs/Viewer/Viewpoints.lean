/-
  VrmlWorld/Proofs/Viewer/Viewpoints.lean
  =======================================
  **What has become of the viewpoint that was gone to.**

  The active viewpoint is kept as a position in a list that is collected anew when
  documents come in. A `Tour` remembers the viewpoint itself that was last gone to.
  It is the active one as long as no document has come in since; a document in
  front of it moves it on in the list, and the position then stands for another
  viewpoint (`Tour.active_is_position_last_gone_to`).
-/
import Mathlib.Data.List.NodupEquivFin
import Mathlib.Order.WellFounded
import VrmlWorld.Proofs.Scene.Updates
import VrmlWorld.Proofs.Viewer.Growth

namespace VrmlWorld

open VrmlWorld.Geometry

/-- A member of a list is found no earlier in a list that has more. -/
theorem exists_later_of_sublist {α : Type} {members more : List α} (sublist : members.Sublist more)
    {position : Nat} {member : α} (found : members[position]? = some member) :
    ∃ later, position ≤ later ∧ more[later]? = some member := by
  obtain ⟨place, same⟩ := List.sublist_iff_exists_orderEmbedding_getElem?_eq.1 sublist
  exact ⟨place position, place.strictMono.le_apply, (same position).symm.trans found⟩

/-! ### The list and the position in it -/

namespace Session

variable {σ : Type}

@[simp] theorem viewpoints_refreshViewpoints (session : Session σ) (force : Bool) :
    (session.refreshViewpoints force).viewpoints =
      session.graph.viewpoints session.camera.position := by
  rw [refreshViewpoints]
  split <;> rfl

@[simp] theorem active_refreshViewpoints (session : Session σ) (force : Bool) :
    (session.refreshViewpoints force).active =
      session.active.filter
        (· < (session.graph.viewpoints session.camera.position).length) := by
  rw [refreshViewpoints]
  split <;> rfl

@[simp] theorem viewpoints_setViewpoint (session : Session σ) (position : Nat) :
    (session.setViewpoint position).2.viewpoints = session.viewpoints := by
  rw [setViewpoint]
  split
  · rfl
  · dsimp only
    split <;> rfl

@[simp] theorem active_setViewpoint (session : Session σ) (position : Nat) :
    (session.setViewpoint position).2.active =
      ((session.viewpoints[position]?).map (fun _ => position) <|> session.active) := by
  rw [setViewpoint]
  cases session.viewpoints[position]? with
  | none => rfl
  | some viewpoint =>
    dsimp only
    split
    · assumption
    · rfl

/-- The session shows the same list with the same position in it. -/
structure SameViewing (session other : Session σ) : Prop where
  viewpoints : session.viewpoints = other.viewpoints
  active : session.active = other.active

namespace SameViewing

variable {origin session : Session σ}

theorem publish (same : session.SameViewing origin) (result : FetchResult) :
    (session.publish result).2.SameViewing origin := by
  rw [Session.publish]
  split
  · split
    · exact { same with }
    · exact same
  · exact { same with }

theorem published (session : Session σ) : session.published.2.SameViewing session :=
  List.foldlRecOn (motive := fun (reached : Bool × Session σ) => reached.2.SameViewing session) _ _
    ⟨rfl, rfl⟩ fun _ same result _ => same.publish result

theorem requestInline (same : session.SameViewing origin)
    (refusal : InlineRequest → Option AssetError) (request : InlineRequest) :
    (session.requestInline refusal request).SameViewing origin := by
  rw [Session.requestInline]
  cases refusal request with
  | none => exact { same with }
  | some error => exact { same with }

/-- Only what has been published can change the list. -/
theorem frame (session : Session σ) (viewport : Vec2)
    (refusal : InlineRequest → Option AssetError) :
    (session.frame viewport refusal).2.SameViewing session.publishAll := by
  rw [Session.frame]
  dsimp only
  generalize session.publishAll = session
  generalize session.renderer.render _ _ _ _ _ = answer
  obtain ⟨frame, renderer, state⟩ := answer
  simp only [← Array.foldl_toList]
  have asked := List.foldlRecOn (motive := (Session.SameViewing · session)) frame.pending.toList
    (Session.requestInline refusal)
    (show Session.SameViewing { session with renderer, state } session from ⟨rfl, rfl⟩)
    fun _ same request _ => same.requestInline refusal request
  exact List.foldlRecOn (motive := (Session.SameViewing · session)) frame.unresolved.toList
    (fun session node => session.failInline node "unresolvable reference") asked
    fun _ same node _ => { same with }

end SameViewing

variable {session : Session σ}

theorem publishAll_sameViewing (none_published : session.published.1 = false) :
    session.publishAll.SameViewing session := by
  rw [publishAll_eq, none_published]
  exact .published session

theorem viewpoints_publishAll (published : session.published.1 = true) :
    session.publishAll.viewpoints =
      session.published.2.graph.viewpoints session.published.2.camera.position := by
  rw [publishAll_eq, if_pos published]
  dsimp only
  split <;> simp

/-- Behind a publication the position stays active if it is still one of the list,
    and the first viewpoint is gone to otherwise. -/
theorem active_publishAll (published : session.published.1 = true) :
    session.publishAll.active =
      (session.active.filter (· < session.publishAll.viewpoints.length) <|>
        (session.publishAll.viewpoints[0]?).map fun _ => 0) := by
  rw [viewpoints_publishAll published, publishAll_eq, if_pos published,
    ← (SameViewing.published session).active]
  dsimp only
  rw [active_refreshViewpoints]
  cases kept : session.published.2.active.filter _ with
  | none => simp [kept]
  | some position => simp [kept]

/-- Another scene begins with its first viewpoint, if it has one. -/
theorem viewpoints_replaceScene (session : Session σ) (graph : SceneGraph) :
    (session.replaceScene graph).viewpoints =
        graph.viewpoints (Camera.ofSettings session.settings.camera).position ∧
      (session.replaceScene graph).active =
        ((session.replaceScene graph).viewpoints[0]?).map fun _ => 0 := by
  simp [replaceScene]

/-- The viewpoints are among those of the scene, for any viewer. -/
def Collects (session : Session σ) : Prop :=
  session.graph.LodFree → ∀ viewer, session.viewpoints.Sublist (session.graph.viewpoints viewer)

/-- No viewpoint is lost, and they keep their order, if there are no levels of
    detail in the end; there were none before then. -/
def Follows (session next : Session σ) : Prop :=
  next.graph.LodFree → session.graph.LodFree ∧ session.viewpoints.Sublist next.viewpoints

end Session

/-! ### Operations on viewpoints -/

namespace Operation

variable {σ : Type} {operation : Operation σ} {session : Session σ}

/-- Whether an operation puts documents into the scene. -/
def brings : Operation σ → Session σ → Bool
  | .frame .., session => session.published.1
  | _, _ => false

/-- The viewpoint that an operation goes to, with its position: the first one of
    another scene, the one that is asked for, or the first one when a frame has
    brought documents and none is active. -/
def goesTo? (operation : Operation σ) (session : Session σ) : Option (Nat × Viewpoint) :=
  match operation with
  | .loadScene .. | .loadLocation .. =>
      (operation.load? session).bind fun next => (next.viewpoints[0]?).map (0, ·)
  | .setViewpoint position => (session.viewpoints[position]?).map (position, ·)
  | .frame .. =>
      let refreshed := session.published.2.refreshViewpoints false
      if session.published.1 && refreshed.active.isNone then
        (refreshed.viewpoints[0]?).map (0, ·)
      else none
  | _ => none

/-- Where an operation has gone to, the position and the viewpoint belong together. -/
theorem viewing_of_goesTo? {position : Nat} {viewpoint : Viewpoint}
    (goes : operation.goesTo? session = some (position, viewpoint)) :
    (operation.perform session).active = some position ∧
      (operation.perform session).viewpoints[position]? = some viewpoint := by
  have ofLoad (goes : ((operation.load? session).bind fun next =>
      (next.viewpoints[0]?).map (0, ·)) = some (position, viewpoint)) :
      (operation.perform session).active = some position ∧
        (operation.perform session).viewpoints[position]? = some viewpoint := by
    obtain ⟨next, loaded, first⟩ := Option.bind_eq_some_iff.1 goes
    obtain ⟨_, found, same⟩ := Option.map_eq_some_iff.1 first
    cases same
    rw [perform_of_load? loaded]
    refine ⟨?_, found⟩
    obtain ⟨text, graph, stats, base, -, rfl⟩ := exists_of_load? loaded
    rw [(session.viewpoints_replaceScene _).2, found]
    rfl
  cases operation with
  | loadScene text base => exact ofLoad goes
  | loadLocation location answer => exact ofLoad goes
  | frame viewport refusal =>
    obtain ⟨gone, first⟩ := Option.ite_none_right_eq_some.1 goes
    obtain ⟨published, inactive⟩ := Bool.and_eq_true_iff.1 gone
    obtain ⟨_, found, same⟩ := Option.map_eq_some_iff.1 first
    cases same
    rw [Session.viewpoints_refreshViewpoints, ← Session.viewpoints_publishAll published] at found
    rw [Session.active_refreshViewpoints, ← Session.viewpoints_publishAll published,
      (Session.SameViewing.published session).active, Option.isNone_iff_eq_none] at inactive
    have viewing := Session.SameViewing.frame session viewport refusal
    rw [perform, viewing.active, viewing.viewpoints, Session.active_publishAll published, inactive,
      found]
    exact ⟨rfl, rfl⟩
  | setViewpoint place =>
    obtain ⟨_, found, same⟩ := Option.map_eq_some_iff.1 goes
    cases same
    simp [perform, found]
  | _ => cases goes

/-- Where an operation within a scene has not gone anywhere, list and position have
    stayed, or the position has stayed as far as the new list goes. -/
theorem viewing_of_goesTo?_eq_none (stays : operation.load? session = none)
    (nowhere : operation.goesTo? session = none) :
    (operation.brings session = false ∧ (operation.perform session).SameViewing session) ∨
      operation.brings session = true ∧ (operation.perform session).active =
        session.active.filter (· < (operation.perform session).viewpoints.length) := by
  cases operation with
  | loadScene | loadLocation =>
    rw [perform, stays]
    exact .inl ⟨rfl, rfl, rfl⟩
  | frame viewport refusal =>
    have viewing := Session.SameViewing.frame session viewport refusal
    cases published : session.published.1 with
    | false =>
      have same := Session.publishAll_sameViewing published
      exact .inl ⟨published, viewing.viewpoints.trans same.viewpoints,
        viewing.active.trans same.active⟩
    | true =>
      refine .inr ⟨published, ?_⟩
      rw [perform, viewing.active, viewing.viewpoints, Session.active_publishAll published]
      cases kept : session.active.filter (· < session.publishAll.viewpoints.length) with
      | some position => rfl
      | none =>
        have inactive : (session.published.2.refreshViewpoints false).active = none := by
          rw [Session.active_refreshViewpoints, ← Session.viewpoints_publishAll published,
            (Session.SameViewing.published session).active, kept]
        simp only [goesTo?, published, inactive, Option.isNone_none, Bool.and_self, if_true,
          Option.map_eq_none_iff, Session.viewpoints_refreshViewpoints] at nowhere
        rw [Session.viewpoints_publishAll published, nowhere]
        rfl
  | setViewpoint place =>
    have missing : session.viewpoints[place]? = none := by simpa [goesTo?] using nowhere
    refine .inl ⟨rfl, ?_, ?_⟩
    · simp [perform]
    · simp [perform, missing]
  | mouseMoved position =>
    left
    rw [perform, Session.mouseMoved]
    split <;> exact ⟨rfl, rfl, rfl⟩
  | _ => exact .inl ⟨rfl, rfl, rfl⟩

/-- A scene that begins without going to a viewpoint has none. -/
theorem active_of_begins (begins : operation.load? session ≠ none)
    (nowhere : operation.goesTo? session = none) : (operation.perform session).active = none := by
  obtain ⟨next, loaded⟩ := Option.ne_none_iff_exists'.1 begins
  have none_there : next.viewpoints[0]? = none := by
    cases operation with
    | loadScene | loadLocation => simpa [goesTo?, loaded] using nowhere
    | _ => cases loaded
  rw [perform_of_load? loaded]
  obtain ⟨text, graph, stats, base, -, rfl⟩ := exists_of_load? loaded
  rw [(session.viewpoints_replaceScene _).2, none_there]
  rfl

/-- Apart from frames, what is done within a scene leaves scene and list alone. -/
theorem scene_of_stays (stays : operation.load? session = none)
    (no_frame : ∀ viewport refusal, operation ≠ .frame viewport refusal) :
    (operation.perform session).graph = session.graph ∧
      (operation.perform session).viewpoints = session.viewpoints := by
  cases operation with
  | loadScene | loadLocation =>
    rw [perform, stays]
    exact ⟨rfl, rfl⟩
  | frame viewport refusal => exact absurd rfl (no_frame viewport refusal)
  | setViewpoint position =>
    exact ⟨(session.scene_setViewpoint position).1, session.viewpoints_setViewpoint position⟩
  | mouseMoved position =>
    rw [perform, Session.mouseMoved]
    split <;> exact ⟨rfl, rfl⟩
  | _ => exact ⟨rfl, rfl⟩

end Operation

/-! ### Tours -/

/-- A run with the viewpoint that has been gone to last. -/
structure Tour (σ : Type) where
  run : Run σ
  /-- The position and the viewpoint last gone to in the scene. -/
  last : Option (Nat × Viewpoint) := none
  /-- Whether no document has come in since. -/
  steady : Bool := true

namespace Tour

variable {σ : Type} {tour : Tour σ}

/-- One operation more. Another scene begins with its own viewpoint. -/
def step (tour : Tour σ) (operation : Operation σ) : Tour σ :=
  let session := tour.run.session
  let gone := operation.goesTo? session
  { run := tour.run.step operation
    last := if operation.begins session then gone else gone <|> tour.last
    steady := operation.begins session || gone.isSome ||
      (tour.steady && !operation.brings session) }

@[simp] theorem session_step (tour : Tour σ) (operation : Operation σ) :
    (tour.step operation).run.session = operation.perform tour.run.session := rfl

theorem last_step_of_goesTo? {operation : Operation σ} {gone : Nat × Viewpoint}
    (goes : operation.goesTo? tour.run.session = some gone) :
    (tour.step operation).last = some gone := by
  simp [step, goes]

theorem last_step_of_begins {operation : Operation σ}
    (begins : operation.begins tour.run.session = true)
    (nowhere : operation.goesTo? tour.run.session = none) : (tour.step operation).last = none := by
  simp [step, begins, nowhere]

theorem step_of_stays {operation : Operation σ} (stays : operation.load? tour.run.session = none)
    (nowhere : operation.goesTo? tour.run.session = none) :
    (tour.step operation).last = tour.last ∧
      (tour.step operation).steady = (tour.steady && !operation.brings tour.run.session) := by
  simp [step, Operation.begins, stays, nowhere]

/-- Some operations, from the start of a session on. -/
def of (settings : Settings) (host : Host σ) (state : σ) (operations : List (Operation σ)) :
    Tour σ :=
  operations.foldl step { run := { session := .start settings host state } }

/-- The active position is that of the viewpoint last gone to. The viewpoint stands
    there still if no document has come in since, and without levels of detail it
    stands there or behind. -/
structure Guided (tour : Tour σ) : Prop where
  inOrder : tour.run.InOrder
  collects : tour.run.session.Collects
  active : ∀ position, tour.run.session.active = some position →
    ∃ viewpoint, tour.last = some (position, viewpoint) ∧
      position < tour.run.session.viewpoints.length ∧
      (tour.steady = true → tour.run.session.viewpoints[position]? = some viewpoint)
  last : ∀ position viewpoint, tour.last = some (position, viewpoint) →
    tour.run.session.graph.LodFree →
    ∃ later, position ≤ later ∧ tour.run.session.viewpoints[later]? = some viewpoint

theorem guided_start (settings : Settings) (host : Host σ) (state : σ) :
    Guided { run := { session := .start settings host state } } where
  inOrder := Run.inOrder_start settings host state
  collects _ _ := List.nil_sublist _
  active _ active := nomatch active
  last _ _ gone := nomatch gone

namespace Guided

/-- Within a scene no viewpoint is lost, whatever comes in. -/
theorem follows (guided : tour.Guided) {operation : Operation σ}
    (stays : operation.load? tour.run.session = none) :
    tour.run.session.Follows (operation.perform tour.run.session) ∧
      (operation.perform tour.run.session).Collects := by
  have collects := guided.collects
  by_cases isFrame : ∃ viewport refusal, operation = .frame viewport refusal
  · obtain ⟨viewport, refusal, rfl⟩ := isFrame
    have balanced : tour.run.session.Balanced tour.run.sent (tour.run.requests.map (·.node))
        tour.run.session := ⟨guided.inOrder.sound, .begin guided.inOrder.accounts⟩
    obtain ⟨toPublished, regular⟩ := balanced.growth_published
    have toNext := balanced.growth_frame viewport refusal
    have wellFormed := balanced.within.regular.wellFormed
    have wellFormed' := (balanced.frame viewport refusal).within.regular.wellFormed
    have viewing := Session.SameViewing.frame tour.run.session viewport refusal
    rw [Session.Follows, Session.Collects, Operation.perform, viewing.viewpoints]
    generalize tour.run.session = session at *
    cases published : session.published.1 with
    | false =>
      rw [(Session.publishAll_sameViewing published).viewpoints]
      have grown := toPublished.trans toNext
      refine ⟨fun free => ⟨free.of_extends grown, .refl _⟩, fun free viewer => ?_⟩
      exact (collects (free.of_extends grown) viewer).trans
        (grown.viewpoints_sublist wellFormed wellFormed' (.inl rfl))
    | true =>
      rw [Session.viewpoints_publishAll published]
      refine ⟨fun free => ?_, fun free viewer => ?_⟩
      · have before := free.of_extends (toPublished.trans toNext)
        exact ⟨before, (collects before _).trans <|
          toPublished.viewpoints_sublist wellFormed regular.wellFormed (.inl rfl)⟩
      · exact toNext.viewpoints_sublist regular.wellFormed wellFormed'
          (.inr (free.of_extends toNext))
  · obtain ⟨sameGraph, sameList⟩ := Operation.scene_of_stays stays
      fun viewport refusal same => isFrame ⟨viewport, refusal, same⟩
    rw [Session.Follows, Session.Collects, sameGraph, sameList]
    exact ⟨fun free => ⟨free, .refl _⟩, collects⟩

theorem collects_of_begins {operation : Operation σ} {next : Session σ}
    (loaded : operation.load? tour.run.session = some next)
    (inOrder : (tour.run.step operation).InOrder) :
    (operation.perform tour.run.session).Collects := by
  have regular := inOrder.accounts.regular
  rw [Run.step, Operation.perform_of_load? loaded] at regular
  rw [Operation.perform_of_load? loaded]
  obtain ⟨text, graph, stats, base, -, rfl⟩ := Operation.exists_of_load? loaded
  intro free viewer
  rw [(tour.run.session.viewpoints_replaceScene _).1]
  rw [(tour.run.session.scene_replaceScene _).1] at free regular ⊢
  exact (SceneGraph.Extends.refl _).viewpoints_sublist regular.wellFormed regular.wellFormed
    (.inr free)

/-- An operation that goes to a viewpoint starts anew. -/
theorem step_of_goesTo? (guided : tour.Guided) {operation : Operation σ} {position : Nat}
    {viewpoint : Viewpoint}
    (goes : operation.goesTo? tour.run.session = some (position, viewpoint)) :
    (tour.step operation).Guided := by
  have inOrder := guided.inOrder.step operation
  have last := Tour.last_step_of_goesTo? goes
  obtain ⟨active, found⟩ := Operation.viewing_of_goesTo? goes
  refine ⟨inOrder, ?_, ?_, ?_⟩
  · cases loaded : operation.load? tour.run.session with
    | none => exact (guided.follows loaded).2
    | some next => exact collects_of_begins loaded inOrder
  · intro other isActive
    obtain rfl := Option.some.inj (active.symm.trans isActive)
    exact ⟨viewpoint, last, (List.getElem?_eq_some_iff.1 found).1, fun _ => found⟩
  · intro other viewpoint' gone _
    cases last.symm.trans gone
    exact ⟨position, le_rfl, found⟩

theorem step_of_begins (guided : tour.Guided) {operation : Operation σ} {next : Session σ}
    (loaded : operation.load? tour.run.session = some next)
    (nowhere : operation.goesTo? tour.run.session = none) : (tour.step operation).Guided := by
  have inOrder := guided.inOrder.step operation
  have begins : operation.begins tour.run.session = true := by
    rw [Operation.begins, loaded]
    rfl
  have forgotten := Tour.last_step_of_begins begins nowhere
  refine ⟨inOrder, collects_of_begins loaded inOrder, ?_, ?_⟩
  · intro position active
    have inactive := Operation.active_of_begins (by simp [loaded]) nowhere
    cases active.symm.trans inactive
  · intro position viewpoint gone
    cases forgotten.symm.trans gone

/-- An operation that goes nowhere moves on the viewpoint last gone to with the list. -/
theorem step_of_stays (guided : tour.Guided) {operation : Operation σ}
    (stays : operation.load? tour.run.session = none)
    (nowhere : operation.goesTo? tour.run.session = none) : (tour.step operation).Guided := by
  obtain ⟨last, steady⟩ := Tour.step_of_stays stays nowhere
  obtain ⟨follows, collects⟩ := guided.follows stays
  refine ⟨guided.inOrder.step operation, collects, ?_, ?_⟩
  · intro position active
    rw [last, steady]
    obtain ⟨quiet, same⟩ | ⟨brought, kept⟩ := Operation.viewing_of_goesTo?_eq_none stays nowhere
    · obtain ⟨viewpoint, isLast, within, found⟩ :=
        guided.active position (same.active.symm.trans active)
      have sameList : (tour.step operation).run.session.viewpoints =
          tour.run.session.viewpoints := same.viewpoints
      rw [sameList, quiet]
      exact ⟨viewpoint, isLast, within, fun steady => found (by simpa using steady)⟩
    · obtain ⟨before, within⟩ := Option.filter_eq_some_iff.1 (kept.symm.trans active)
      obtain ⟨viewpoint, isLast, -, -⟩ := guided.active position before
      refine ⟨viewpoint, isLast, of_decide_eq_true within, ?_⟩
      rw [brought]
      simp
  · intro position viewpoint gone free
    obtain ⟨before, sublist⟩ := follows free
    obtain ⟨later, behind, found⟩ := guided.last position viewpoint (last.symm.trans gone) before
    obtain ⟨latest, further, found⟩ := exists_later_of_sublist sublist found
    exact ⟨latest, behind.trans further, found⟩

theorem step (guided : tour.Guided) (operation : Operation σ) : (tour.step operation).Guided := by
  cases goes : operation.goesTo? tour.run.session with
  | some gone => exact guided.step_of_goesTo? goes
  | none =>
    cases loaded : operation.load? tour.run.session with
    | some next => exact guided.step_of_begins loaded goes
    | none => exact guided.step_of_stays loaded goes

end Guided

/-- The active position is the one last gone to in the scene, and lies within the
    list. The viewpoint that was gone to is at that position as long as no document
    has come in since, and in a scene without levels of detail there or at a later
    one. -/
theorem active_is_position_last_gone_to (settings : Settings) (host : Host σ) (state : σ)
    (operations : List (Operation σ)) (position : Nat)
    (active : (of settings host state operations).run.session.active = some position) :
    let tour := of settings host state operations
    let session := tour.run.session
    position < session.viewpoints.length ∧
    ∃ viewpoint, tour.last = some (position, viewpoint) ∧
      (tour.steady = true → session.viewpoints[position]? = some viewpoint) ∧
      (session.graph.LodFree →
        ∃ later, position ≤ later ∧ session.viewpoints[later]? = some viewpoint) := by
  intro tour session
  have guided : tour.Guided :=
    List.foldlRecOn operations step (guided_start settings host state)
      fun _ guided operation _ => guided.step operation
  obtain ⟨viewpoint, last, within, found⟩ := guided.active position active
  exact ⟨within, viewpoint, last, found, guided.last position viewpoint last⟩

end Tour

/-! ### A document in front of the active viewpoint -/

section Late

open Document SceneGraph

def someCamera : NodeKind := .camera { projection := .perspective 0.785398 }

def loneCamera : SceneGraph := { empty.insert { kind := someCamera } with root := some ⟨0⟩ }

theorem parse?_loneCamera : parse? "PerspectiveCamera{}" = some (loneCamera, ⟨1, 0, 0⟩) := by
  decide +kernel

def cameraBehindInline : SceneGraph :=
  { ((empty.insert { kind := .inline { url := "b" } }).insert { kind := someCamera }).insert
      { kind := .group .group, children := [⟨0⟩, ⟨1⟩] } with root := some ⟨2⟩ }

theorem parse?_cameraBehindInline :
    parse? "Group{WWWInline{name b}PerspectiveCamera{}}" =
      some (cameraBehindInline, ⟨3, 0, 0⟩) := by
  decide +kernel

namespace Tour

def silentHost : Host Unit where
  loadTexture _ state := (.error .noRootNode, state)
  rasterize _ state := (none, state)

/-- The session with the document of its first inline at hand. -/
def withCamera (session : Session Unit) : Session Unit :=
  { session with
    loader.waiting := session.loader.waiting.eraseIdx 0
    loader.finished := session.loader.finished ++
      [⟨⟨⟨⟨0⟩, .path "b"⟩, 1⟩, .ok { loneCamera with base := some (.path "b") }⟩] }

theorem complete_withCamera {session : Session Unit}
    (waiting : session.loader.waiting = [⟨⟨⟨0⟩, .path "b"⟩, 1⟩]) :
    session.complete 0 (.ok "PerspectiveCamera{}") = withCamera session := by
  have read : InlineLoader.read (.path "b") (.ok "PerspectiveCamera{}") =
      .ok { loneCamera with base := some (.path "b") } := by
    simp [InlineLoader.read, parse?_loneCamera, bind, Except.bind]
  simp [Session.complete, InlineLoader.complete, withCamera, waiting, read]

theorem frames_cameraBehindInline :
    let begun := (Session.start {} silentHost ()).replaceScene cameraBehindInline
    let asked := (begun.frame ⟨800, 600⟩).2
    let shown := ((withCamera asked).frame ⟨800, 600⟩).2
    let frame : Operation Unit := .frame ⟨800, 600⟩ fun _ => none
    (begun.viewpoints[0]?).map (·.node) = some ⟨1⟩ ∧
      (frame.goesTo? begun).isNone = true ∧
      asked.loader.waiting = [⟨⟨⟨0⟩, .path "b"⟩, 1⟩] ∧
      (frame.goesTo? (withCamera asked)).isNone = true ∧
      shown.active = some 0 ∧ shown.viewpoints.map (·.node) = [⟨3⟩, ⟨1⟩] := by
  decide +kernel

/-- The camera of the document comes to stand where the active one stood, and is
    taken for it. -/
theorem position_stands_for_another_camera :
    let tour := of {} silentHost ()
      [.loadScene "Group{WWWInline{name b}PerspectiveCamera{}}" none,
        .frame ⟨800, 600⟩ fun _ => none, .complete 0 (.ok "PerspectiveCamera{}"),
        .frame ⟨800, 600⟩ fun _ => none]
    let session := tour.run.session
    session.active = some 0 ∧ session.viewpoints.map (·.node) = [⟨3⟩, ⟨1⟩] ∧
      ∃ viewpoint, tour.last = some (0, viewpoint) ∧ viewpoint.node = ⟨1⟩ := by
  intro tour session
  let load : Operation Unit := .loadScene "Group{WWWInline{name b}PerspectiveCamera{}}" none
  let frame : Operation Unit := .frame ⟨800, 600⟩ fun _ => none
  let answer : Operation Unit := .complete 0 (.ok "PerspectiveCamera{}")
  let setOff : Tour Unit := { run := { session := .start {} silentHost () } }
  have loaded : load.load? setOff.run.session =
      some ((Session.start {} silentHost ()).replaceScene cameraBehindInline) := by
    simp only [load, Operation.load?, Session.loadScene, parse?_cameraBehindInline]
    rfl
  obtain ⟨first, quiet, waiting, quiet', active, nodes⟩ := frames_cameraBehindInline
  generalize (Session.start {} silentHost ()).replaceScene cameraBehindInline = shown at *
  obtain ⟨viewpoint, found, isFirst⟩ := Option.map_eq_some_iff.1 first
  have goes : load.goesTo? setOff.run.session = some (0, viewpoint) := by
    simp only [load, Operation.goesTo?] at loaded ⊢
    rw [loaded, Option.bind_some, found]
    rfl
  have gone := last_step_of_goesTo? goes
  have begun : (setOff.step load).run.session = shown := Operation.perform_of_load? loaded
  have isTour : tour = (((setOff.step load).step frame).step answer).step frame := rfl
  generalize setOff.step load = begins at isTour begun gone
  subst begun
  -- The camera of the scene stays the one gone to through frame, answer and frame.
  have asked : (begins.step frame).last = begins.last :=
    (step_of_stays rfl (Option.isNone_iff_eq_none.1 quiet)).1
  have answered : ((begins.step frame).step answer).last = (begins.step frame).last :=
    (step_of_stays rfl rfl).1
  have arrived : ((begins.step frame).step answer).run.session =
      withCamera (begins.run.session.frame ⟨800, 600⟩).2 := by
    rw [session_step, session_step]
    dsimp only [answer, frame, Operation.perform]
    exact complete_withCamera waiting
  have settled : (((begins.step frame).step answer).step frame).last =
      ((begins.step frame).step answer).last :=
    (step_of_stays rfl (arrived ▸ Option.isNone_iff_eq_none.1 quiet')).1
  have isLast : tour.last = some (0, viewpoint) := by
    rw [isTour, settled, answered, asked, gone]
  have isSession : session = frame.perform ((begins.step frame).step answer).run.session := by
    rw [← session_step, ← isTour]
  rw [arrived] at isSession
  have isActive : session.active = some 0 := isSession ▸ active
  obtain ⟨-, same, sameLast, -⟩ := active_is_position_last_gone_to {} silentHost () _ 0 isActive
  cases isLast.symm.trans sameLast
  exact ⟨isActive, isSession ▸ nodes, viewpoint, isLast, isFirst⟩

end Tour

end Late

end VrmlWorld
