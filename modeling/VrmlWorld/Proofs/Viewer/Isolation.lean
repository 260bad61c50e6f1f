/-
  VrmlWorld/Proofs/Viewer/Isolation.lean
  ======================================
  **Nothing of an earlier scene is seen in a later one.**

  An `Act` is what an operation means for the scene that is shown: an answer to a
  fetch of an earlier scene means nothing, and one for the scene itself is known
  by its place among the fetches of the scene. Two sessions may have been through
  different scenes; once both begin the same one, the same acts give the same
  frames, hits, viewpoints and cameras (`Run.same_sights_of_same_acts`).
-/
import VrmlWorld.Proofs.Scene.Updates
import VrmlWorld.Proofs.Viewer.Likeness
import VrmlWorld.Proofs.Viewer.Settling

namespace VrmlWorld

open VrmlWorld.Geometry

/-! ### What a history leaves alone -/

namespace Session

variable {σ : Type}

/-- The sessions have the same settings and the same host, and renderers that are
    the same when their caches are empty. -/
structure Akin (session other : Session σ) : Prop where
  settings : session.settings = other.settings
  host : session.host = other.host
  renderer : session.renderer.clear = other.renderer.clear

namespace Akin

variable {origin session : Session σ}

theorem refl (session : Session σ) : session.Akin session := ⟨rfl, rfl, rfl⟩

theorem trans {between : Session σ} (first : session.Akin between) (second : between.Akin origin) :
    session.Akin origin :=
  ⟨first.settings.trans second.settings, first.host.trans second.host,
    first.renderer.trans second.renderer⟩

theorem refreshViewpoints (akin : session.Akin origin) (force : Bool) :
    (session.refreshViewpoints force).Akin origin := by
  rw [Session.refreshViewpoints]
  split
  · exact { akin with }
  · exact { akin with }

theorem setViewpoint (akin : session.Akin origin) (position : Nat) :
    (session.setViewpoint position).2.Akin origin := by
  rw [Session.setViewpoint]
  split
  · exact akin
  · dsimp only
    split
    · exact { akin with }
    · exact { akin with }

theorem replaceScene (akin : session.Akin origin) (graph : SceneGraph) :
    (session.replaceScene graph).Akin origin := by
  rw [Session.replaceScene]
  apply setViewpoint
  apply refreshViewpoints
  exact { akin with }

theorem failInline (akin : session.Akin origin) (node : NodeId) (reason : String) :
    (session.failInline node reason).Akin origin := { akin with }

theorem publish (akin : session.Akin origin) (result : FetchResult) :
    (session.publish result).2.Akin origin := by
  rw [Session.publish]
  split
  · split
    · exact { akin with }
    · exact akin
  · exact akin.failInline ..

theorem requestInline (akin : session.Akin origin) (refusal : InlineRequest → Option AssetError)
    (request : InlineRequest) : (session.requestInline refusal request).Akin origin := by
  rw [Session.requestInline]
  cases refusal request with
  | none => exact { akin with }
  | some error => exact { akin with }

theorem kept (origin : Session σ) : Kept (Session.Akin · origin) where
  poll _ akin := { akin with }
  publish _ result akin := akin.publish result
  refresh _ akin := akin.refreshViewpoints false
  go _ akin := akin.setViewpoint 0
  draw _ _ _ cleared akin := { akin with renderer := cleared.trans akin.renderer }
  ask _ refusal request akin := akin.requestInline refusal request
  giveUp _ node reason akin := akin.failInline node reason

end Akin

end Session

theorem Operation.akin_perform {σ : Type} (operation : Operation σ) (session : Session σ) :
    (operation.perform session).Akin session := by
  have same := Session.Akin.refl session
  have load : ∀ {operation : Operation σ}, ((operation.load? session).getD session).Akin session := by
    intro operation
    cases loaded : operation.load? session with
    | none => exact same
    | some next =>
      obtain ⟨text, graph, stats, base, -, rfl⟩ := Operation.exists_of_load? loaded
      exact same.replaceScene _
  cases operation with
  | loadScene text base => exact load
  | loadLocation location answer => exact load
  | frame viewport refusal => exact (Session.Akin.kept session).frame same viewport refusal
  | setViewpoint position => exact same.setViewpoint position
  | mouseMoved position =>
    rw [perform, Session.mouseMoved]
    split
    · exact { same with }
    · exact { same with }
  | _ => exact { same with }

/-! ### Acts -/

/-- What an operation means for the scene that is shown. -/
inductive Act where
  | loadScene (text : String) (base : Option Location)
  | loadLocation (location : Location) (answer : Except AssetError String)
  | frame (viewport : Vec2) (refusal : InlineRequest → Option AssetError)
  /-- The request at a place among those of the scene is answered. -/
  | answer (place : Nat) (answer : Except AssetError String)
  | setViewpoint (position : Nat)
  | setCamera (camera : Camera)
  | mouseMoved (position : Vec2)
  | mousePressed
  | mouseReleased (viewport : Vec2)
  | scroll (delta : Float32)

/-- What an act shows by itself. -/
inductive Outcome where
  | loaded (error : Option AssetError)
  | frame (frame : Frame)
  | gone (found : Bool)
  | picked (hit : Option Hit)
  | nothing

/-- What can be asked of a session at any time. -/
structure Sight where
  camera : Camera
  viewpoints : List Viewpoint
  active : Option Nat
  pending : Nat
  pick : (screen viewport : Vec2) → Option Hit

def Session.sight {σ : Type} (session : Session σ) : Sight where
  camera := session.camera
  viewpoints := session.viewpoints
  active := session.active
  pending := session.pendingInlines
  pick := session.pick

namespace Operation

variable {σ τ : Type}

/-- The act of an operation. What is done with events is none, and neither is an
    answer to a fetch of an earlier scene. -/
def act? (operation : Operation σ) (loader : InlineLoader) : Option Act :=
  match operation with
  | .loadScene text base => some (.loadScene text base)
  | .loadLocation location answer => some (.loadLocation location answer)
  | .frame viewport refusal => some (.frame viewport refusal)
  | .complete position answer =>
      (loader.waiting[position]?).bind fun fetch =>
        if loader.owns fetch then
          some (.answer (passedBefore loader.owns loader.waiting position) answer)
        else none
  | .setViewpoint position => some (.setViewpoint position)
  | .setCamera camera => some (.setCamera camera)
  | .mouseMoved position => some (.mouseMoved position)
  | .mousePressed => some .mousePressed
  | .mouseReleased viewport => some (.mouseReleased viewport)
  | .scroll delta => some (.scroll delta)
  | .register .. | .dispatch | .drain => none

def outcome (operation : Operation σ) (session : Session σ) : Outcome :=
  match operation with
  | .loadScene text base => .loaded (error? (session.loadScene text base))
  | .loadLocation location answer => .loaded (error? (session.loadLocation location answer))
  | .frame viewport refusal => .frame (session.frame viewport refusal).1
  | .setViewpoint position => .gone (session.setViewpoint position).1
  | .mouseReleased viewport => .picked (session.mouseReleased viewport).1
  | _ => .nothing
where
  error? : Except AssetError (Session σ) → Option AssetError
    | .ok _ => none
    | .error error => some error

/-- The operations that an act stands for. -/
inductive Does (loader : InlineLoader) : Act → Operation σ → Prop where
  | loadScene (text : String) (base : Option Location) :
      Does loader (.loadScene text base) (.loadScene text base)
  | loadLocation (location : Location) (answer : Except AssetError String) :
      Does loader (.loadLocation location answer) (.loadLocation location answer)
  | frame (viewport : Vec2) (refusal : InlineRequest → Option AssetError) :
      Does loader (.frame viewport refusal) (.frame viewport refusal)
  | answer {position place : Nat} {fetch : Fetch} (found : loader.waiting[position]? = some fetch)
      (own : loader.owns fetch = true)
      (isPlace : passedBefore loader.owns loader.waiting position = place)
      (answer : Except AssetError String) :
      Does loader (.answer place answer) (.complete position answer)
  | setViewpoint (position : Nat) : Does loader (.setViewpoint position) (.setViewpoint position)
  | setCamera (camera : Camera) : Does loader (.setCamera camera) (.setCamera camera)
  | mouseMoved (position : Vec2) : Does loader (.mouseMoved position) (.mouseMoved position)
  | mousePressed : Does loader .mousePressed .mousePressed
  | mouseReleased (viewport : Vec2) :
      Does loader (.mouseReleased viewport) (.mouseReleased viewport)
  | scroll (delta : Float32) : Does loader (.scroll delta) (.scroll delta)

theorem does_of_act? {operation : Operation σ} {loader : InlineLoader} {act : Act}
    (h : operation.act? loader = some act) : Does loader act operation := by
  cases operation with
  | complete position answer =>
    obtain ⟨fetch, found, isAct⟩ := Option.bind_eq_some_iff.1 h
    obtain ⟨own, same⟩ := Option.ite_none_right_eq_some.1 isAct
    cases same
    exact .answer found own rfl answer
  | register | dispatch | drain => cases h
  | _ =>
    cases h
    constructor

/-- An operation without an act changes nothing that is seen. -/
theorem perform_alike_of_silent {operation : Operation σ} {session : Session σ} {other : Session τ}
    (silent : operation.act? session.loader = none) (alike : session.Alike other) :
    (operation.perform session).Alike other := by
  cases operation with
  | complete position answer =>
    have stale : ∀ fetch, session.loader.waiting[position]? = some fetch →
        session.loader.owns fetch = false := by
      intro fetch found
      simpa [act?, found] using silent
    have same := InlineLoader.complete_alike_of_stale stale answer
    exact { alike with loader := same.trans alike.loader }
  | register type handler => exact { alike with }
  | dispatch => exact { alike with }
  | drain => exact { alike with }
  | _ => cases silent

theorem loadScene_alike {session : Session σ} {other : Session τ} (alike : session.Alike other)
    (sound : session.loader.Sound) (sound' : other.loader.Sound) (text : String)
    (base : Option Location) :
    outcome.error? (session.loadScene text base) = outcome.error? (other.loadScene text base) ∧
      ((session.loadScene text base).toOption.getD session).Alike
        ((other.loadScene text base).toOption.getD other) := by
  rw [Session.loadScene, Session.loadScene]
  cases Document.parse? text with
  | none => exact ⟨rfl, alike⟩
  | some answer =>
    have renderer := congrArg Renderer.clear alike.renderer
    exact ⟨rfl, Session.replaceScene_alike alike.settings alike.hosts renderer sound sound'
      alike.mouse _⟩

/-- The same act shows the same in both sessions, and keeps them alike. -/
theorem perform_alike {session : Session σ} {other : Session τ} (alike : session.Alike other)
    (sound : session.loader.Sound) (sound' : other.loader.Sound) {act : Act}
    {operation : Operation σ} {operation' : Operation τ} (does : Does session.loader act operation)
    (does' : Does other.loader act operation') :
    operation.outcome session = operation'.outcome other ∧
      (operation.perform session).Alike (operation'.perform other) := by
  cases does with
  | loadScene text base =>
    cases does'
    obtain ⟨sameError, begun⟩ := loadScene_alike alike sound sound' text base
    exact ⟨congrArg Outcome.loaded sameError, begun⟩
  | loadLocation location answer =>
    cases does'
    cases answer with
    | error error => exact ⟨rfl, alike⟩
    | ok text =>
      obtain ⟨sameError, begun⟩ := loadScene_alike alike sound sound' text (some location)
      exact ⟨congrArg Outcome.loaded sameError, begun⟩
  | frame viewport refusal =>
    cases does'
    obtain ⟨sameFrame, behind⟩ := alike.frame viewport refusal
    exact ⟨congrArg Outcome.frame sameFrame, behind⟩
  | answer found own isPlace answer =>
    cases does' with
    | answer found' own' isPlace' =>
      have loader := alike.loader.complete found own found' own' (isPlace.trans isPlace'.symm) answer
      exact ⟨rfl, { alike with loader }⟩
  | setViewpoint position =>
    cases does'
    obtain ⟨sameFlag, behind⟩ := alike.setViewpoint position
    exact ⟨congrArg Outcome.gone sameFlag, behind⟩
  | setCamera camera =>
    cases does'
    exact ⟨rfl, { alike with camera := rfl }⟩
  | mouseMoved position =>
    cases does'
    exact ⟨rfl, alike.mouseMoved position⟩
  | mousePressed =>
    cases does'
    exact ⟨rfl, { alike with mouse := alike.mouse.press }⟩
  | mouseReleased viewport =>
    cases does'
    obtain ⟨sameHit, behind⟩ := alike.mouseReleased viewport
    exact ⟨congrArg Outcome.picked sameHit, behind⟩
  | scroll delta =>
    cases does'
    exact ⟨rfl, alike.scroll delta⟩

end Operation

/-! ### Runs side by side -/

namespace Session

variable {σ τ : Type}

theorem Alike.sight {session : Session σ} {other : Session τ} (alike : session.Alike other) :
    session.sight = other.sight := by
  have pending : session.pendingInlines = other.pendingInlines := alike.loader.inFlight
  rw [Session.sight, Session.sight, alike.camera, alike.viewpoints, alike.active, alike.pick, pending]

def behind (session : Session σ) (operations : List (Operation σ)) : Session σ :=
  operations.foldl (fun session operation => operation.perform session) session

def acts (session : Session σ) (operations : List (Operation σ)) : List Act :=
  trail Operation.perform (fun operation session => (operation.act? session.loader).toList)
    operations session

/-- What each act of some operations shows, and what can be asked behind it. -/
def sights (session : Session σ) (operations : List (Operation σ)) : List (Outcome × Sight) :=
  trail Operation.perform
    (fun operation session => (operation.act? session.loader).toList.map fun _ =>
      (operation.outcome session, (operation.perform session).sight))
    operations session

variable {session : Session σ} {operation : Operation σ} {operations : List (Operation σ)}

theorem acts_cons_of_silent (silent : operation.act? session.loader = none) :
    session.acts (operation :: operations) = (operation.perform session).acts operations := by
  rw [acts, trail, silent]
  rfl

theorem sights_cons_of_silent (silent : operation.act? session.loader = none) :
    session.sights (operation :: operations) = (operation.perform session).sights operations := by
  rw [sights, trail, silent]
  rfl

theorem acts_cons_of_act {act : Act} (isAct : operation.act? session.loader = some act) :
    session.acts (operation :: operations) =
      act :: (operation.perform session).acts operations := by
  rw [acts, trail, isAct]
  rfl

theorem sights_cons_of_act {act : Act} (isAct : operation.act? session.loader = some act) :
    session.sights (operation :: operations) =
      (operation.outcome session, (operation.perform session).sight) ::
        (operation.perform session).sights operations := by
  rw [sights, trail, isAct]
  rfl

/-- Operations without acts show nothing, and change nothing that is seen. -/
theorem Alike.behind_of_acts_eq_nil {other : Session τ} (alike : session.Alike other)
    (silent : session.acts operations = []) :
    session.sights operations = [] ∧ (session.behind operations).Alike other := by
  induction operations generalizing session with
  | nil => exact ⟨rfl, alike⟩
  | cons operation operations ih =>
    cases isAct : operation.act? session.loader with
    | some act =>
      rw [acts_cons_of_act isAct] at silent
      cases silent
    | none =>
      rw [acts_cons_of_silent isAct] at silent
      rw [sights_cons_of_silent isAct]
      exact ih (Operation.perform_alike_of_silent isAct alike) silent

/-- The induction is on the operations of one run; within it, those of the other
    run are gone through up to the next act. -/
theorem Alike.behind_of_same_acts {run : Run σ} {run' : Run τ} (alike : run.session.Alike run'.session)
    (inOrder : run.InOrder) (inOrder' : run'.InOrder) {operations' : List (Operation τ)}
    (same : run.session.acts operations = run'.session.acts operations') :
    run.session.sights operations = run'.session.sights operations' ∧
      (run.session.behind operations).Alike (run'.session.behind operations') := by
  induction operations generalizing run run' operations' with
  | nil =>
    obtain ⟨none, behind⟩ := alike.symm.behind_of_acts_eq_nil same.symm
    exact ⟨none.symm, behind.symm⟩
  | cons operation operations ih =>
    cases isAct : operation.act? run.session.loader with
    | none =>
      rw [acts_cons_of_silent isAct] at same
      rw [sights_cons_of_silent isAct]
      have stays : (run.step operation).session.Alike run'.session :=
        Operation.perform_alike_of_silent isAct alike
      exact ih stays (inOrder.step operation) inOrder' same
    | some act =>
      rw [acts_cons_of_act isAct] at same
      induction operations' generalizing run' with
      | nil => cases same
      | cons operation' operations' further =>
        cases isAct' : operation'.act? run'.session.loader with
        | none =>
          rw [acts_cons_of_silent isAct'] at same
          rw [sights_cons_of_silent isAct']
          have stays : run.session.Alike (run'.step operation').session :=
            (Operation.perform_alike_of_silent isAct' alike.symm).symm
          exact further stays (inOrder'.step operation') same
        | some act' =>
          rw [acts_cons_of_act isAct'] at same
          obtain ⟨rfl, rest⟩ := List.cons.inj same
          obtain ⟨sameOutcome, performed⟩ := Operation.perform_alike alike inOrder.sound
            inOrder'.sound (Operation.does_of_act? isAct) (Operation.does_of_act? isAct')
          have stays : (run.step operation).session.Alike (run'.step operation').session :=
            performed
          obtain ⟨sameSights, atEnd⟩ :=
            ih stays (inOrder.step operation) (inOrder'.step operation') rest
          rw [sights_cons_of_act isAct, sights_cons_of_act isAct', sameOutcome, performed.sight]
          exact ⟨congrArg _ sameSights, atEnd⟩

end Session

namespace Run

variable {σ τ : Type}

theorem akin_of (settings : Settings) (host : Host σ) (state : σ) (operations : List (Operation σ)) :
    (of settings host state operations).session.Akin (.start settings host state) :=
  of_induction (P := fun run => run.session.Akin (.start settings host state)) (.refl _)
    (fun run operation akin => (operation.akin_perform run.session).trans akin) operations

theorem inOrder_of (settings : Settings) (host : Host σ) (state : σ)
    (operations : List (Operation σ)) : (of settings host state operations).InOrder :=
  of_induction (inOrder_start settings host state) (fun _ operation h => h.step operation)
    operations

/-- Two sessions with the same settings, and with hosts that answer alike, have
    been used for different things. The pointer is at the same place in both,
    and no button is held.

    Once both have begun the same scene, they show the same. Whatever is done
    then, as long as the same acts are done in both, each act shows the same in
    both and leaves both showing the same, wherever answers to fetches of earlier
    scenes come in between. -/
theorem same_sights_of_same_acts {settings : Settings} {host : Host σ} {host' : Host τ}
    {textures : Location → Except AssetError TextureHandle}
    {bitmaps : TextRequest → Option TextBitmap} (loads : host.LoadsBy textures)
    (loads' : host'.LoadsBy textures) (letters : host.LettersBy bitmaps)
    (letters' : host'.LettersBy bitmaps) {state : σ} {state' : τ} {earlier : List (Operation σ)}
    {earlier' : List (Operation τ)}
    (position : (of settings host state earlier).session.mouse.position =
      (of settings host' state' earlier').session.mouse.position)
    (loose : (of settings host state earlier).session.mouse.pressed = none)
    (loose' : (of settings host' state' earlier').session.mouse.pressed = none) {text : String}
    {base : Option Location} {begun : Session σ} {begun' : Session τ}
    (loaded : (of settings host state earlier).session.loadScene text base = .ok begun)
    (loaded' : (of settings host' state' earlier').session.loadScene text base = .ok begun') :
    begun.sight = begun'.sight ∧
      ∀ later later', begun.acts later = begun'.acts later' →
        begun.sights later = begun'.sights later' ∧
          (begun.behind later).sight = (begun'.behind later').sight := by
  have inOrder := inOrder_of settings host state earlier
  have inOrder' := inOrder_of settings host' state' earlier'
  have akin := akin_of settings host state earlier
  have akin' := akin_of settings host' state' earlier'
  let run := (of settings host state earlier).step (.loadScene text base)
  let run' := (of settings host' state' earlier').step (.loadScene text base)
  have isBegun : run.session = begun := by
    change ((of settings host state earlier).session.loadScene text base).toOption.getD _ = _
    rw [loaded]
    rfl
  have isBegun' : run'.session = begun' := by
    change ((of settings host' state' earlier').session.loadScene text base).toOption.getD _ = _
    rw [loaded']
    rfl
  have alike : run.session.Alike run'.session := by
    rw [isBegun, isBegun']
    rw [Session.loadScene] at loaded loaded'
    cases parsed : Document.parse? text with
    | none =>
      rw [parsed] at loaded
      cases loaded
    | some answer =>
      rw [parsed] at loaded loaded'
      cases loaded
      cases loaded'
      refine Session.replaceScene_alike (akin.settings.trans akin'.settings.symm) ?_
        (akin.renderer.trans akin'.renderer.symm) inOrder.sound inOrder'.sound ?_ _
      · rw [akin.host, akin'.host]
        exact Host.alike_of_by loads loads' letters letters'
      · exact ⟨position, loose.trans loose'.symm, fun held => by simp [loose] at held⟩
  rw [← isBegun, ← isBegun']
  refine ⟨alike.sight, fun later later' same => ?_⟩
  obtain ⟨sameSights, atEnd⟩ :=
    alike.behind_of_same_acts (inOrder.step _) (inOrder'.step _) same
  exact ⟨sameSights, atEnd.sight⟩

end Run

/-! ### An answer that comes too late -/

section Late

open Document

def loneInline : SceneGraph :=
  { SceneGraph.empty.insert { kind := .inline { url := "b" } } with root := some ⟨0⟩ }

theorem parse?_loneInline : parse? "WWWInline{name b}" = some (loneInline, ⟨1, 0, 0⟩) := by
  decide +kernel

namespace Run

def bareHost (σ : Type) (next : σ → σ) : Host σ where
  loadTexture _ state := (.error .noRootNode, next state)
  rasterize _ state := (none, next state)

theorem bareHost_loadsBy (σ : Type) (next : σ → σ) :
    (bareHost σ next).LoadsBy fun _ => .error .noRootNode := fun _ _ => rfl

theorem bareHost_lettersBy (σ : Type) (next : σ → σ) :
    (bareHost σ next).LettersBy fun _ => none := fun _ _ => rfl

/-- The document of the scene is asked for by its first frame. -/
theorem frame_loneInline :
    let session := (((Session.start {} (bareHost Unit id) ()).replaceScene loneInline).frame
      ⟨800, 600⟩).2
    session.loader.waiting = [⟨⟨⟨0⟩, .path "b"⟩, 1⟩] ∧ session.loader.generation = 1 ∧
      session.mouse = {} := by
  decide +kernel

/-- In the one session the document of an earlier scene arrives while its
    successor is shown, and the other one has just been started. -/
theorem same_sights_with_answer_to_earlier_scene :
    let load {σ : Type} : Operation σ := .loadScene "WWWInline{name b}" none
    let frame {σ : Type} : Operation σ := .frame ⟨800, 600⟩ fun _ => none
    let late : Operation Unit := .complete 0 (.ok "Cube{}")
    ∃ begun begun',
      (of {} (bareHost Unit id) () [load, frame]).session.loadScene "WWWInline{name b}" none =
        .ok begun ∧
      (of {} (bareHost Nat (· + 1)) 0 []).session.loadScene "WWWInline{name b}" none =
        .ok begun' ∧
      begun.loader.waiting.length = 1 ∧ begun'.loader.waiting = [] ∧
      begun.sights [late, frame] = begun'.sights [frame] := by
  intro load frame late
  have loads {σ : Type} (session : Session σ) : session.loadScene "WWWInline{name b}" none =
      .ok (session.replaceScene loneInline) := by
    rw [Session.loadScene, parse?_loneInline]
    rfl
  have before : (of {} (bareHost Unit id) () [load, frame]).session =
      (((Session.start {} (bareHost Unit id) ()).replaceScene loneInline).frame ⟨800, 600⟩).2 := by
    simp only [of, List.foldl_cons, List.foldl_nil, step, load, frame, Operation.perform,
      Operation.load?, loads]
    rfl
  obtain ⟨waiting, generation, mouse⟩ := frame_loneInline
  rw [← before] at waiting generation mouse
  generalize isEarlier : (of {} (bareHost Unit id) () [load, frame]).session = earlier at *
  have loader : (earlier.replaceScene loneInline).loader = earlier.loader.reset :=
    (earlier.scene_replaceScene loneInline).2
  have silent : late.act? (earlier.replaceScene loneInline).loader = none := by
    simp [late, Operation.act?, loader, InlineLoader.reset, waiting, InlineLoader.owns, generation]
  have sameActs : (earlier.replaceScene loneInline).acts [late, frame] =
      ((of {} (bareHost Nat (· + 1)) 0 []).session.replaceScene loneInline).acts [frame] := by
    rw [Session.acts_cons_of_silent silent]
    rfl
  refine ⟨_, _, loads _, loads _, ?_, ?_, ?_⟩
  · rw [loader]
    exact congrArg List.length waiting
  · rw [(Session.scene_replaceScene _ _).2]
    rfl
  · subst isEarlier
    have loaded := loads (of {} (bareHost Unit id) () [load, frame]).session
    have loaded' := loads (of {} (bareHost Nat (· + 1)) 0 []).session
    have position : (of {} (bareHost Unit id) () [load, frame]).session.mouse.position =
        (of {} (bareHost Nat (· + 1)) 0 []).session.mouse.position := by
      rw [mouse]
      rfl
    have loose : (of {} (bareHost Unit id) () [load, frame]).session.mouse.pressed = none := by
      rw [mouse]
    have same := same_sights_of_same_acts (bareHost_loadsBy Unit id) (bareHost_loadsBy Nat (· + 1))
      (bareHost_lettersBy Unit id) (bareHost_lettersBy Nat (· + 1)) position loose rfl loaded loaded'
    exact (same.2 _ _ sameActs).1

end Run

end Late

end VrmlWorld
