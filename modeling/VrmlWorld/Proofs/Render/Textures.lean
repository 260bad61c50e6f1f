/-
  VrmlWorld/Proofs/Render/Textures.lean
  =====================================
  **Which image a name of an image stands for.**

  A renderer keeps its textures by the names that nodes give, and it resolves a
  name where the name is first met. A node of a document spliced into the scene
  should find the image beside that document, and it does unless a node of
  another document has asked for the same name before
  (`Screening.binds_texture_of_first_asker`).
-/
import VrmlWorld.Proofs.Render.Memory
import VrmlWorld.Proofs.Scene.Origins

namespace VrmlWorld

open VrmlWorld.Geometry

/-- What a name stands for in a document from some place: nothing if the name
    cannot be resolved there, or if nothing is loaded from where it leads. -/
def textureAt? (textures : Location → Except AssetError TextureHandle) (base : Option Location)
    (name : String) : Option TextureHandle :=
  match Location.resolve base name with
  | .error _ => none
  | .ok location => (textures location).toOption

theorem TextureCache.ask_fst {σ : Type} {host : Host σ}
    {textures : Location → Except AssetError TextureHandle} (loads : host.LoadsBy textures)
    (name : String) (base : Option Location) (state : σ) :
    (ask host name base state).1 = textureAt? textures base name := by
  rw [ask, textureAt?]
  cases Location.resolve base name with
  | error error => rfl
  | ok location =>
    simp only [← loads location state]
    obtain ⟨outcome, behind⟩ := host.loadTexture location state
    cases outcome <;> rfl

namespace Visit

variable {σ : Type}

theorem texture_behind {visit : Visit σ} {texture : Texture2} (kind : visit.kind = .texture2 texture)
    (named : texture.filename.isEmpty = false) (host : Host σ) (view : View) :
    (visit.behind host view).1.texture = (visit.texture? host texture.filename).map
      fun handle => ⟨handle, texture.wrapS, texture.wrapT⟩ := by
  obtain ⟨node, _, properties, pass⟩ := visit
  obtain rfl := kind
  have found := pass.caches.textures.load_fst host texture.filename properties.base pass.host
  rw [named, if_neg Bool.false_ne_true] at found
  rw [texture?, ← found]
  rfl

/-! ### What some visits have found for a name -/

/-- The place that the first of some visits resolves a name from. -/
def firstBase? (name : String) (visits : List (Visit σ)) : Option (Option Location) :=
  (visits.find? (·.image? = some name)).map (·.properties.base)

variable {host : Host σ} {textures : Location → Except AssetError TextureHandle} {segments : Nat}
  {last : Caches} {visits : List (Visit σ)}

/-- What is kept for a name is what the first visit that asked for it has found. -/
theorem Chained.getElem?_textures (chained : Chained host segments {} visits last)
    (loads : host.LoadsBy textures) (name : String) :
    last.textures.entries[name]? =
        (firstBase? name visits).map (textureAt? textures · name) ∧
      ∀ before visit after, visits = before ++ visit :: after →
        visit.pass.caches.textures.entries[name]? =
          (firstBase? name before).map (textureAt? textures · name) := by
  refine chained.history (P := fun seen caches => caches.textures.entries[name]? =
    (firstBase? name seen).map (textureAt? textures · name)) ?_ [] (by simp [firstBase?])
  intro seen visit _ view _ kept
  rw [visit.getElem?_textures_behind, texture?, kept, TextureCache.ask_fst loads]
  simp only [firstBase?, List.find?_append]
  cases seen.find? (·.image? = some name) with
  | some earlier => rfl
  | none =>
    by_cases asks : visit.image? = some name
    · simp [asks]
    · simp [asks]

end Visit

/-! ### Screenings -/

/-- What is done with a scene that is shown. -/
inductive Deed where
  | change (update : SceneGraph.Update)
  | frame (camera : Camera) (aspect : Float32)
  /-- All caches are emptied. -/
  | clear

/-- A scene that is shown, and what has been visited since the caches were last
    emptied: each visit with the place of the document that its node was read
    from. -/
structure Screening (σ : Type) where
  scene : Assembled
  renderer : Renderer
  state : σ
  met : List (Visit σ × Option Location) := []

namespace Screening

variable {σ : Type} {host : Host σ}

def start (text : String) (base : Option Location) (renderer : Renderer) (state : σ) :
    Screening σ where
  scene := .ofText text base
  renderer := renderer.clear
  state

def visits (shown : Screening σ) (host : Host σ) (camera : Camera) (aspect : Float32) :
    List (Visit σ × Option Location) :=
  (shown.renderer.visits host shown.state shown.scene.graph camera aspect).map
    fun visit => (visit, shown.scene.origin visit.node)

def step (host : Host σ) (shown : Screening σ) : Deed → Screening σ
  | .change update => { shown with scene := shown.scene.updated update }
  | .frame camera aspect =>
      let behind := Renderer.shoot host ⟨shown.scene.graph, camera, aspect⟩
        (shown.renderer, shown.state)
      { shown with
        renderer := behind.1
        state := behind.2
        met := shown.met ++ shown.visits host camera aspect }
  | .clear => { shown with renderer := shown.renderer.clear, met := [] }

/-- The caches come from the visits recorded, and each visit was in the document
    that its node was read from. -/
structure Faithful (host : Host σ) (shown : Screening σ) : Prop where
  sourced : shown.scene.Sourced
  chained : Visit.Chained host shown.renderer.segments {} (shown.met.map (·.1))
    shown.renderer.caches
  places : ∀ met ∈ shown.met, met.1.properties.base = met.2

theorem faithful_start (host : Host σ) (text : String) (base : Option Location)
    (renderer : Renderer) (state : σ) : (start text base renderer state).Faithful host where
  sourced := Assembled.sourced_ofText text base
  chained := .nil
  places _ member := nomatch member

namespace Faithful

variable {shown : Screening σ}

theorem base_of_mem_visits (faithful : shown.Faithful host) (camera : Camera) (aspect : Float32) :
    ∀ met ∈ shown.visits host camera aspect, met.1.properties.base = met.2 := by
  intro met member
  obtain ⟨visit, among, rfl⟩ := List.mem_map.1 member
  exact faithful.sourced.base_of_mem_renderer_visits shown.renderer host shown.state camera aspect
    among

theorem chained_visits (faithful : shown.Faithful host) (camera : Camera) (aspect : Float32) :
    Visit.Chained host shown.renderer.segments {}
      ((shown.met ++ shown.visits host camera aspect).map (·.1))
      (Renderer.shoot host ⟨shown.scene.graph, camera, aspect⟩
        (shown.renderer, shown.state)).1.caches := by
  have further := Renderer.chained_visits host ⟨shown.scene.graph, camera, aspect⟩
    (shown.renderer, shown.state)
  rw [List.map_append]
  refine faithful.chained.append ?_
  simpa [visits, Function.comp_def] using further

theorem step (faithful : shown.Faithful host) (deed : Deed) :
    (shown.step host deed).Faithful host := by
  cases deed with
  | change update => exact ⟨faithful.sourced.updated update, faithful.chained, faithful.places⟩
  | clear => exact ⟨faithful.sourced, .nil, fun _ member => nomatch member⟩
  | frame camera aspect =>
    refine ⟨faithful.sourced, ?_, ?_⟩
    · have chained := faithful.chained_visits camera aspect
      rwa [← Renderer.segments_shoot host ⟨shown.scene.graph, camera, aspect⟩
        (shown.renderer, shown.state)] at chained
    · exact List.forall_mem_append.2 ⟨faithful.places, faithful.base_of_mem_visits camera aspect⟩

end Faithful

theorem faithful_foldl_step (deeds : List Deed) (text : String) (base : Option Location)
    (renderer : Renderer) (state : σ) :
    (deeds.foldl (Screening.step host) (start text base renderer state)).Faithful host :=
  List.foldlRecOn deeds (Screening.step host) (faithful_start host text base renderer state)
    fun _ faithful deed _ => faithful.step deed

/-- The place of the document whose node was the first to ask for a name. -/
def firstAsker? (name : String) (met : List (Visit σ × Option Location)) :
    Option (Option Location) :=
  (met.find? (·.1.image? = some name)).map (·.2)

theorem firstBase?_map_fst {met : List (Visit σ × Option Location)}
    (places : ∀ asker ∈ met, asker.1.properties.base = asker.2) (name : String) :
    Visit.firstBase? name (met.map (·.1)) = firstAsker? name met := by
  rw [Visit.firstBase?, firstAsker?, List.find?_map, Option.map_map]
  exact Option.map_congr fun asker found => places asker (List.mem_of_find?_eq_some found)

/-- A frame of a scene that has been put together from documents, after any
    changes and frames.

    A node with the name of an image binds the image that the name leads to from
    the document of the first node that has asked for it since the caches were
    emptied. If no node of another document has asked for it, this is the image
    that it leads to from the node's own document. -/
theorem binds_texture_of_first_asker {textures : Location → Except AssetError TextureHandle}
    (loads : host.LoadsBy textures) (text : String) (base : Option Location) (renderer : Renderer)
    (state : σ) (deeds : List Deed) (camera : Camera) (aspect : Float32) (view : View) :
    let shown := deeds.foldl (Screening.step host) (start text base renderer state)
    ∀ before visit own after texture,
      shown.visits host camera aspect = before ++ (visit, own) :: after →
      visit.kind = .texture2 texture → texture.filename.isEmpty = false →
      let bind (place : Option Location) : Option BoundTexture :=
        (textureAt? textures place texture.filename).map (⟨·, texture.wrapS, texture.wrapT⟩)
      (visit.behind host view).1.texture =
          bind ((firstAsker? texture.filename (shown.met ++ before)).getD own) ∧
        ((∀ met ∈ shown.met ++ before, met.1.image? = some texture.filename → met.2 = own) →
          (visit.behind host view).1.texture = bind own) := by
  intro shown before visit own after texture split kind named bind
  have faithful : shown.Faithful host := faithful_foldl_step deeds text base renderer state
  have isOwn := faithful.base_of_mem_visits camera aspect
  have chained := faithful.chained_visits camera aspect
  rw [split] at isOwn
  have bound : (visit.behind host view).1.texture =
      bind ((firstAsker? texture.filename (shown.met ++ before)).getD own) := by
    have kept := (chained.getElem?_textures loads texture.filename).2
      ((shown.met ++ before).map (·.1)) visit (after.map (·.1)) (by simp [split])
    have places : ∀ met ∈ shown.met ++ before, met.1.properties.base = met.2 :=
      List.forall_mem_append.2 ⟨faithful.places, fun met member => isOwn met (by simp [member])⟩
    rw [firstBase?_map_fst places] at kept
    have here : visit.properties.base = own := isOwn (visit, own) (by simp)
    rw [Visit.texture_behind kind named, Visit.texture?, kept, TextureCache.ask_fst loads, here]
    cases firstAsker? texture.filename (shown.met ++ before) <;> rfl
  refine ⟨bound, fun alone => ?_⟩
  rw [bound, firstAsker?]
  cases found : (shown.met ++ before).find? (·.1.image? = some texture.filename) with
  | none => rfl
  | some asker =>
    have asks : asker.1.image? = some texture.filename := by simpa using List.find?_some found
    exact congrArg bind (alone asker (List.mem_of_find?_eq_some found) asks)

/-! ### One name in two documents -/

section Skins

open Document SceneGraph

def skin : SceneGraph :=
  { empty.insert { kind := .texture2 { filename := "a" } } with root := some ⟨0⟩ }

theorem sceneOf_skin : sceneOf "Texture2{filename a}" = skin := by
  decide +kernel

def skinAndInline : SceneGraph :=
  { ((empty.insert { kind := .texture2 { filename := "a" } }).insert
      { kind := .inline {} }).insert { kind := .group .group, children := [⟨0⟩, ⟨1⟩] }
    with root := some ⟨2⟩, base := some (.path "main.wrl") }

theorem graph_ofText_skinAndInline :
    (Assembled.ofText "Group{Texture2{filename a}WWWInline{}}" (some (.path "main.wrl"))).graph =
      skinAndInline := by
  decide +kernel

/-- The scene with a document in its inline whose node names the same image, but
    which lies in another directory. -/
def twoSkins : SceneGraph :=
  { nodes := #[some { kind := .texture2 { filename := "a" } },
      some { kind := .inline { status := .loaded, location := some (.path "parts/ball.wrl") },
             children := [⟨3⟩] },
      some { kind := .group .group, children := [⟨0⟩, ⟨1⟩] },
      some { kind := .texture2 { filename := "a" } }]
    storage := ⟨#[⟨some ⟨0⟩, 0⟩, ⟨some ⟨1⟩, 0⟩, ⟨some ⟨2⟩, 0⟩, ⟨some ⟨3⟩, 0⟩], []⟩
    root := some ⟨2⟩
    base := some (.path "main.wrl") }

theorem updated_skinAndInline :
    skinAndInline.updated (.splice ⟨1⟩ "Texture2{filename a}" none (.path "parts/ball.wrl")) =
      twoSkins := by
  have spliced : skinAndInline.splice? ⟨1⟩ skin (.path "parts/ball.wrl") = some twoSkins := by
    decide +kernel
  have isSkin : { sceneOf "Texture2{filename a}" with base := none } = skin := by
    rw [sceneOf_skin]
    rfl
  simp only [SceneGraph.updated, isSkin, spliced, Option.getD_some]

theorem visits_twoSkins {σ : Type} (renderer : Renderer) (host : Host σ) (state : σ)
    (camera : Camera) :
    ∃ (p₁ p₂ p₃ p₄ : Properties) (s₁ s₂ s₃ s₄ : Pass σ),
      renderer.visits host state twoSkins camera 1 =
        [⟨⟨2⟩, .group .group, p₁, s₁⟩, ⟨⟨0⟩, .texture2 { filename := "a" }, p₂, s₂⟩,
          ⟨⟨1⟩, .inline { status := .loaded, location := some (.path "parts/ball.wrl") }, p₃, s₃⟩,
          ⟨⟨3⟩, .texture2 { filename := "a" }, p₄, s₄⟩] := by
  have unfolds : twoSkins.unfolding = some (twoSkins.unfold 5 ⟨2⟩) := rfl
  have group : twoSkins.get? ⟨2⟩ = some { kind := .group .group, children := [⟨0⟩, ⟨1⟩] } := rfl
  have skin : twoSkins.get? ⟨0⟩ = some { kind := .texture2 { filename := "a" } } := rfl
  have inline : twoSkins.get? ⟨1⟩ = some
      { kind := .inline { status := .loaded, location := some (.path "parts/ball.wrl") }
        children := [⟨3⟩] } := rfl
  have skin' : twoSkins.get? ⟨3⟩ = some { kind := .texture2 { filename := "a" } } := rfl
  rw [Renderer.visits, unfolds, Option.elim_some, Occurrence.visits_unfold_group group rfl _ rfl rfl]
  simp only [active, trail, Occurrence.visits_unfold_single skin rfl, List.append_nil]
  rw [Occurrence.visits_unfold_group inline rfl _ rfl rfl]
  simp only [active, trail, Occurrence.visits_unfold_single skin' rfl, List.append_nil, if_true]
  exact ⟨_, _, _, _, _, _, _, _, rfl⟩

/-- The image beside the scene has the handle 1, and that beside the document the
    handle 2. -/
def skinAt (location : Location) : Except AssetError TextureHandle :=
  if location = .path "a" then .ok ⟨1⟩
  else if location = .path "parts/a" then .ok ⟨2⟩
  else .error (.notFound location.text)

theorem textureAt?_scene : textureAt? skinAt (some (.path "main.wrl")) "a" = some ⟨1⟩ := by
  decide +kernel

theorem textureAt?_document : textureAt? skinAt (some (.path "parts/ball.wrl")) "a" = some ⟨2⟩ := by
  decide +kernel

/-- The node of the document does not bind the image beside the document, for the
    node of the scene has asked for its name before. -/
theorem binds_texture_of_scene_in_document :
    let host : Host Unit :=
      { loadTexture := fun location state => (skinAt location, state)
        rasterize := fun _ state => (none, state) }
    let deeds : List Deed :=
      [.change (.splice ⟨1⟩ "Texture2{filename a}" none (.path "parts/ball.wrl"))]
    let shown := deeds.foldl (step host)
      (start "Group{Texture2{filename a}WWWInline{}}" (some (.path "main.wrl")) (.ofSettings {}) ())
    let camera := Camera.ofSettings {}
    let view := shown.renderer.view (shown.renderer.lights shown.scene.graph camera) camera 1
    host.LoadsBy skinAt ∧
      ∃ before visit,
        shown.visits host camera 1 = before ++ [(visit, some (.path "parts/ball.wrl"))] ∧
        visit.kind = .texture2 { filename := "a" } ∧
        (visit.behind host view).1.texture = some ⟨⟨1⟩, .tiled, .tiled⟩ ∧
        textureAt? skinAt (some (.path "parts/ball.wrl")) "a" = some ⟨2⟩ := by
  intro host deeds shown camera view
  have loads : host.LoadsBy skinAt := fun _ _ => rfl
  obtain ⟨p₁, p₂, p₃, p₄, s₁, s₂, s₃, s₄, visited⟩ :=
    visits_twoSkins (Renderer.ofSettings {}).clear host () camera
  have isScene : shown.scene.graph = twoSkins := by
    rw [← updated_skinAndInline, ← graph_ofText_skinAndInline]
    rfl
  have isPlace (id : NodeId) :
      shown.scene.place id = if id.index < 3 then none else some (.path "parts/ball.wrl") := by
    have sized := congrArg (·.nodes.size) graph_ofText_skinAndInline
    change (if id.index < (Assembled.ofText _ _).graph.nodes.size then _ else _) = _
    rw [sized]
    rfl
  let before : List (Visit Unit × Option Location) :=
    [(⟨⟨2⟩, .group .group, p₁, s₁⟩, some (.path "main.wrl")),
      (⟨⟨0⟩, .texture2 { filename := "a" }, p₂, s₂⟩, some (.path "main.wrl")),
      (⟨⟨1⟩, .inline { status := .loaded, location := some (.path "parts/ball.wrl") }, p₃, s₃⟩,
        some (.path "main.wrl"))]
  have split : shown.visits host camera 1 = before ++
      [(⟨⟨3⟩, .texture2 { filename := "a" }, p₄, s₄⟩, some (.path "parts/ball.wrl"))] := by
    have same : shown.renderer.visits host shown.state shown.scene.graph camera 1 =
        (Renderer.ofSettings {}).clear.visits host () twoSkins camera 1 := by
      rw [isScene]
      rfl
    rw [visits, same, visited]
    simp only [List.map_cons, List.map_nil, Assembled.origin, isScene, isPlace]
    rfl
  have bound := (binds_texture_of_first_asker loads "Group{Texture2{filename a}WWWInline{}}"
    (some (.path "main.wrl")) (.ofSettings {}) () deeds camera 1 view before _ _ [] _ split rfl rfl).1
  refine ⟨loads, before, _, split, rfl, bound.trans ?_, textureAt?_document⟩
  have first : firstAsker? "a" (shown.met ++ before) = some (some (.path "main.wrl")) := rfl
  change (textureAt? skinAt ((firstAsker? "a" (shown.met ++ before)).getD _) "a").map _ = _
  rw [first, Option.getD_some, textureAt?_scene]
  rfl

end Skins

end Screening

end VrmlWorld
