/-
  VrmlWorld/Proofs/Render/Memory.lean
  ===================================
  **What a renderer remembers of its visits.**

  A visit adds to the caches what was not there before, and nothing else: the
  mesh of a shape, the bitmap of a text, the answer for the name of an image
  (`Visit.get?_meshes_behind` and its siblings). Whatever the caches hold behind
  some visits is therefore what the first visit concerned has found, and a film
  of many frames is one chain of visits.
-/
import VrmlWorld.Proofs.Render.Histories

namespace VrmlWorld

open VrmlWorld.Geometry

/-! ### Hosts whose answers depend on the request alone -/

namespace Host

variable {σ : Type}

def LoadsBy (host : Host σ) (textures : Location → Except AssetError TextureHandle) : Prop :=
  ∀ location state, (host.loadTexture location state).1 = textures location

def LettersBy (host : Host σ) (bitmaps : TextRequest → Option TextBitmap) : Prop :=
  ∀ request state, (host.rasterize request state).1 = bitmaps request

end Host

/-! ### One visit -/

theorem MeshCache.get?_getOrBuild (cache : MeshCache) (node other : NodeId)
    (build : Unit → Option Mesh) :
    (cache.getOrBuild node build).2.get? other =
      (cache.get? other <|> if other = node then build () else none) := by
  rw [getOrBuild]
  cases kept : cache.get? node with
  | some mesh =>
    by_cases same : other = node
    · simp [same, kept]
    · simp [same]
  | none =>
    cases made : build () with
    | none => simp [get?]
    | some mesh =>
      by_cases same : other = node
      · subst same
        simp [kept]
        simp [get?]
      · simp [get?, Std.HashMap.getElem?_insert, Ne.symm same, same]

namespace TextureCache

variable {σ : Type}

theorem load_fst (cache : TextureCache) (host : Host σ) (filename : String)
    (base : Option Location) (state : σ) :
    (cache.load host filename base state).1 =
      if filename.isEmpty then none
      else (cache.entries[filename]?).getD (ask host filename base state).1 := by
  rw [load]
  split
  · rfl
  · cases cache.entries[filename]? <;> rfl

theorem getElem?_entries_load (cache : TextureCache) (host : Host σ) (filename name : String)
    (base : Option Location) (state : σ) :
    (cache.load host filename base state).2.1.entries[name]? =
      (cache.entries[name]? <|>
        if filename.isEmpty then none
        else if filename = name then
          some ((cache.entries[name]?).getD (ask host name base state).1) else none) := by
  rw [load]
  split
  · simp
  · by_cases same : filename = name
    · subst same
      cases kept : cache.entries[filename]? with
      | some handle => simp [kept]
      | none => simp
    · cases kept : cache.entries[filename]? with
      | some handle => simp [same]
      | none => simp [Std.HashMap.getElem?_insert, same]

end TextureCache

namespace Pass

variable {σ : Type}

@[simp] theorem caches_shut (pass : Pass σ) (properties : Properties) (node : NodeId)
    (kind : NodeKind) : (pass.shut properties node kind).caches = pass.caches := by
  cases kind with
  | inline inline =>
    rw [shut]
    split <;> rfl
  | _ => rfl

theorem texts_bitmap (pass : Pass σ) (host : Host σ) (properties : Properties)
    (node other : NodeId) (text : AsciiText) :
    (pass.bitmap host properties node text).2.caches.texts[other]? =
      (pass.caches.texts[other]? <|>
        if other = node then some (pass.bitmap host properties node text).1 else none) := by
  rw [bitmap]
  cases kept : pass.caches.texts[node]? with
  | some bitmap =>
    by_cases same : other = node
    · simp [same, kept]
    · simp [same]
  | none =>
    by_cases same : other = node
    · subst same
      simp [kept]
    · simp [Std.HashMap.getElem?_insert, Ne.symm same, same]

theorem caches_drawShape (pass : Pass σ) (view : View) (properties : Properties) (node : NodeId)
    (kind : NodeKind) :
    (pass.drawShape view properties node kind).caches =
      (pass.mesh node fun _ => tessellate? kind (properties.context view.segments)).2.caches := by
  rw [drawShape]
  generalize pass.mesh node _ = answer
  obtain ⟨mesh, behind⟩ := answer
  cases mesh <;> rfl

/-- A text without a bitmap is not given a mesh. -/
theorem caches_drawText (pass : Pass σ) (host : Host σ) (view : View) (properties : Properties)
    (node : NodeId) (text : AsciiText) :
    (pass.drawText host view properties node text).caches =
      ((pass.bitmap host properties node text).1.elim (pass.bitmap host properties node text).2
        fun bitmap => ((pass.bitmap host properties node text).2.mesh node fun _ =>
          Tessellation.textQuad? properties.font text.justification text.spacing
            text.strings.length bitmap.aspect).2).caches := by
  rw [drawText]
  generalize pass.bitmap host properties node text = answer
  obtain ⟨bitmap, between⟩ := answer
  cases bitmap with
  | none => rfl
  | some bitmap =>
    simp only [Option.elim_some]
    generalize between.mesh node _ = answer
    obtain ⟨mesh, behind⟩ := answer
    cases mesh <;> rfl

end Pass

namespace Visit

variable {σ : Type}

/-- The bitmap that a visited text finds, with the failures. -/
def lettered? (visit : Visit σ) (host : Host σ) : Option (Option TextBitmap) :=
  match visit.kind with
  | .asciiText text => some (visit.bitmap? host text)
  | _ => none

/-- The name that a visited node asks an image for. -/
def image? (visit : Visit σ) : Option String :=
  match visit.kind with
  | .texture2 texture => if texture.filename.isEmpty then none else some texture.filename
  | _ => none

/-- The texture that a visit finds for a name, kept or given by the host. -/
def texture? (visit : Visit σ) (host : Host σ) (name : String) : Option TextureHandle :=
  (visit.pass.caches.textures.entries[name]?).getD
    (TextureCache.ask host name visit.properties.base visit.pass.host).1

/-- What a visit can make: nothing at all where there is no shape, or a text
    without a bitmap. -/
def making? (visit : Visit σ) (host : Host σ) (view : View) : Option (Option Mesh) :=
  match visit.kind with
  | .asciiText text =>
      (visit.bitmap? host text).map fun bitmap =>
        Tessellation.textQuad? visit.properties.font text.justification text.spacing
          text.strings.length bitmap.aspect
  | kind =>
      if kind.isShape then some (tessellate? kind (visit.properties.context view.segments)) else none

theorem mesh?_eq_bind (visit : Visit σ) (host : Host σ) (view : View) :
    visit.mesh? host view = (visit.making? host view).bind visit.keptOr := by
  obtain ⟨node, kind, properties, pass⟩ := visit
  cases kind with
  | asciiText text => simp [mesh?, making?, Option.bind_map]
  | _ => rfl

/-- Whether a visit can make anything is a matter of its kind, and of the bitmap
    for a text. -/
theorem isSome_making? (visit : Visit σ) (host : Host σ) (view : View) :
    (visit.making? host view).isSome =
      (visit.lettered? host).elim visit.kind.isShape Option.isSome := by
  obtain ⟨node, kind, properties, pass⟩ := visit
  cases kind with
  | asciiText text => simp [making?, lettered?]
  | _ => rfl

theorem mesh?_congr (visit : Visit σ) (host : Host σ) {view view' : View}
    (same : view.segments = view'.segments) : visit.mesh? host view = visit.mesh? host view' := by
  simp only [mesh?, same]

theorem caches_behind (visit : Visit σ) (host : Host σ) (view : View) :
    (visit.behind host view).2.caches =
      if visit.kind.isGroup then visit.pass.caches
      else (visit.pass.meet host view visit.properties visit.node visit.kind).2.caches := by
  rw [behind]
  split <;> simp

/-- A visit adds the mesh that it finds. -/
theorem get?_meshes_behind (visit : Visit σ) (host : Host σ) (view : View) (node : NodeId) :
    (visit.behind host view).2.caches.meshes.get? node =
      (visit.pass.caches.meshes.get? node <|>
        if node = visit.node then visit.mesh? host view else none) := by
  obtain ⟨id, kind, properties, pass⟩ := visit
  rw [caches_behind]
  cases kind with
  | cube | sphere | cone | cylinder | indexedFaceSet | indexedLineSet | pointSet =>
    simp only [NodeKind.isGroup, Pass.meet, NodeKind.isShape, if_true, Bool.false_eq_true, if_false,
      pass.caches_drawShape, Pass.mesh, MeshCache.get?_getOrBuild, mesh?, keptOr]
    by_cases same : node = id
    · subst same
      cases pass.caches.meshes.get? node <;> simp
    · simp [same]
  | asciiText text =>
    have first := pass.bitmap_fst host properties id text
    have sameMeshes := pass.meshes_bitmap host properties id text
    simp only [NodeKind.isGroup, Pass.meet, Bool.false_eq_true, if_false, pass.caches_drawText]
    generalize pass.bitmap host properties id text = answer at first sameMeshes
    obtain ⟨bitmap, between⟩ := answer
    simp only at first sameMeshes
    cases bitmap with
    | none => simp [mesh?, ← first, sameMeshes]
    | some bitmap =>
      simp only [Option.elim_some, Pass.mesh, MeshCache.get?_getOrBuild, sameMeshes, mesh?, ← first,
        Option.bind_some, keptOr]
      by_cases same : node = id
      · subst same
        cases pass.caches.meshes.get? node <;> simp
      · simp [same]
  | texture2 texture => simp [NodeKind.isGroup, Pass.meet, mesh?, NodeKind.isShape]
  | _ => simp [NodeKind.isGroup, Pass.meet, mesh?, NodeKind.isShape]

theorem getElem?_texts_behind (visit : Visit σ) (host : Host σ) (view : View) (node : NodeId) :
    (visit.behind host view).2.caches.texts[node]? =
      (visit.pass.caches.texts[node]? <|>
        if node = visit.node then visit.lettered? host else none) := by
  obtain ⟨id, kind, properties, pass⟩ := visit
  rw [caches_behind]
  cases kind with
  | cube | sphere | cone | cylinder | indexedFaceSet | indexedLineSet | pointSet =>
    simp [NodeKind.isGroup, Pass.meet, NodeKind.isShape, pass.caches_drawShape, Pass.mesh, lettered?]
  | asciiText text =>
    have added := pass.texts_bitmap host properties id node text
    rw [pass.bitmap_fst] at added
    simp only [NodeKind.isGroup, Pass.meet, Bool.false_eq_true, if_false, pass.caches_drawText]
    rw [lettered?, ← added]
    generalize pass.bitmap host properties id text = answer
    obtain ⟨bitmap, between⟩ := answer
    cases bitmap <;> rfl
  | _ => simp [NodeKind.isGroup, Pass.meet, NodeKind.isShape, lettered?]

theorem getElem?_textures_behind (visit : Visit σ) (host : Host σ) (view : View) (name : String) :
    (visit.behind host view).2.caches.textures.entries[name]? =
      (visit.pass.caches.textures.entries[name]? <|>
        if visit.image? = some name then some (visit.texture? host name) else none) := by
  obtain ⟨id, kind, properties, pass⟩ := visit
  rw [caches_behind]
  cases kind with
  | cube | sphere | cone | cylinder | indexedFaceSet | indexedLineSet | pointSet =>
    simp [NodeKind.isGroup, Pass.meet, NodeKind.isShape, pass.caches_drawShape, Pass.mesh, image?]
  | asciiText text =>
    have same : (pass.bitmap host properties id text).2.caches.textures = pass.caches.textures := by
      rw [Pass.bitmap]
      cases pass.caches.texts[id]? <;> rfl
    simp only [NodeKind.isGroup, Pass.meet, Bool.false_eq_true, if_false, pass.caches_drawText]
    generalize pass.bitmap host properties id text = answer at same
    obtain ⟨bitmap, between⟩ := answer
    cases bitmap <;> simp_all [image?, Pass.mesh]
  | texture2 texture =>
    simp only [NodeKind.isGroup, Pass.meet, Bool.false_eq_true, if_false, image?, texture?,
      TextureCache.getElem?_entries_load]
    by_cases unnamed : texture.filename.isEmpty
    · simp [unnamed]
    · simp only [unnamed, Bool.false_eq_true, if_false, Option.some.injEq]
  | _ => simp [NodeKind.isGroup, Pass.meet, NodeKind.isShape, image?]

/-! ### Records -/

theorem mesh?_of_kept {visit : Visit σ} {host : Host σ} {view : View} {kept found : Mesh}
    (isKept : visit.pass.caches.meshes.get? visit.node = some kept)
    (isFound : visit.mesh? host view = some found) : found = kept := by
  rw [mesh?_eq_bind] at isFound
  obtain ⟨made, -, isFound⟩ := Option.bind_eq_some_iff.1 isFound
  simpa [keptOr, isKept] using isFound.symm

/-- An entry of the caches that visits make: each adds what it finds, and finds
    what is there already. -/
structure Recorded {γ : Type} (host : Host σ) (segments : Nat) (entry : Caches → Option γ)
    (find : Visit σ → Option γ) : Prop where
  adds : ∀ (visit : Visit σ) (view : View), view.segments = segments →
    entry (visit.behind host view).2.caches = (entry visit.pass.caches <|> find visit)
  agrees : ∀ (visit : Visit σ) (kept found : γ), entry visit.pass.caches = some kept →
    find visit = some found → found = kept

theorem recorded_mesh (host : Host σ) (view : View) (node : NodeId) :
    Recorded host view.segments (fun caches => caches.meshes.get? node)
      (fun visit => if node = visit.node then visit.mesh? host view else none) where
  adds visit view' cut := by rw [visit.get?_meshes_behind, visit.mesh?_congr host cut]
  agrees visit kept found isKept isFound := by
    split at isFound
    · rename_i same
      exact mesh?_of_kept (same ▸ isKept) isFound
    · cases isFound

theorem recorded_bitmap (host : Host σ) (segments : Nat) (node : NodeId) :
    Recorded host segments (fun caches => caches.texts[node]?)
      (fun visit => if node = visit.node then visit.lettered? host else none) where
  adds visit view _ := visit.getElem?_texts_behind host view node
  agrees visit kept found isKept isFound := by
    split at isFound
    · rename_i same
      rw [same] at isKept
      rw [lettered?] at isFound
      split at isFound
      · simpa [bitmap?, isKept] using isFound.symm
      · cases isFound
    · cases isFound

theorem recorded_texture (host : Host σ) (segments : Nat) (name : String) :
    Recorded host segments (fun caches => caches.textures.entries[name]?)
      (fun visit => if visit.image? = some name then some (visit.texture? host name) else none) where
  adds visit view _ := visit.getElem?_textures_behind host view name
  agrees visit kept found isKept isFound := by
    split at isFound
    · simpa [texture?, isKept] using isFound.symm
    · cases isFound

section Chains

variable {host : Host σ} {segments : Nat} {caches last : Caches} {visits : List (Visit σ)}
  {γ : Type} {entry : Caches → Option γ} {find : Visit σ → Option γ}

/-- An entry is what the first visit has found that found anything. -/
theorem Recorded.first (recorded : Recorded host segments entry find)
    (chained : Chained host segments caches visits last) :
    entry last = (entry caches <|> visits.findSome? find) := by
  induction chained with
  | nil => simp
  | @cons first others last view cut rest ih =>
    rw [ih, recorded.adds first view cut, List.findSome?_cons]
    cases entry first.pass.caches <;> cases find first <;> rfl

/-- An entry is never replaced, so it is what any visit has found. -/
theorem Recorded.lasting (recorded : Recorded host segments entry find)
    (chained : Chained host segments caches visits last) :
    ∀ visit ∈ visits, ∀ found, find visit = some found → entry last = some found := by
  let Lasting (seen : List (Visit σ)) (caches : Caches) : Prop :=
    ∀ visit ∈ seen, ∀ found, find visit = some found → entry caches = some found
  refine (chained.history (P := Lasting) ?_ [] (fun _ none => nomatch none)).1
  intro seen visit member view cut lasting other among found isFound
  rw [recorded.adds visit view cut]
  obtain before | now := List.mem_append.1 among
  · rw [lasting other before found isFound]
    rfl
  · obtain rfl := List.mem_singleton.1 now
    cases kept : entry other.pass.caches with
    | none => exact isFound
    | some mesh =>
      rw [recorded.agrees other mesh found kept isFound]
      rfl

end Chains

end Visit

/-! ### Films -/

/-- A scene at some time, with the camera that looks at it. -/
structure Shot where
  graph : SceneGraph
  camera : Camera
  aspect : Float32

namespace Renderer

variable {σ : Type}

/-- A renderer and its host behind one frame more. -/
def shoot (host : Host σ) (shot : Shot) (reached : Renderer × σ) : Renderer × σ :=
  (reached.1.render host reached.2 shot.graph shot.camera shot.aspect).2

def film (host : Host σ) : List Shot → Renderer × σ → List Frame :=
  trail (shoot host) fun shot reached =>
    [(reached.1.render host reached.2 shot.graph shot.camera shot.aspect).1]

/-- All that is visited for the frames of some shots. -/
def footage (host : Host σ) : List Shot → Renderer × σ → List (Visit σ) :=
  trail (shoot host) fun shot reached =>
    reached.1.visits host reached.2 shot.graph shot.camera shot.aspect

theorem segments_shoot (host : Host σ) (shot : Shot) (reached : Renderer × σ) :
    (shoot host shot reached).1.segments = reached.1.segments := by
  rw [shoot, render]
  cases shot.graph.unfolding <;> rfl

theorem segments_foldl_shoot (host : Host σ) (shots : List Shot) (reached : Renderer × σ) :
    (shots.foldl (fun reached shot => shoot host shot reached) reached).1.segments =
      reached.1.segments := by
  induction shots generalizing reached with
  | nil => rfl
  | cons shot shots ih => rw [List.foldl_cons, ih, segments_shoot]

theorem chained_visits (host : Host σ) (shot : Shot) (reached : Renderer × σ) :
    Visit.Chained host reached.1.segments reached.1.caches
      (reached.1.visits host reached.2 shot.graph shot.camera shot.aspect)
      (shoot host shot reached).1.caches := by
  rw [shoot, render, visits]
  cases shot.graph.unfolding with
  | none => exact .nil
  | some root =>
    exact root.chained_visits host
      (reached.1.view (reached.1.lights shot.graph shot.camera) shot.camera shot.aspect)
      ({ base := shot.graph.base }, { caches := reached.1.caches, host := reached.2 })

theorem chained_footage (host : Host σ) (shots : List Shot) (reached : Renderer × σ) :
    Visit.Chained host reached.1.segments reached.1.caches (footage host shots reached)
      (shots.foldl (fun reached shot => shoot host shot reached) reached).1.caches := by
  induction shots generalizing reached with
  | nil => exact .nil
  | cons shot shots ih =>
    have rest := ih (shoot host shot reached)
    rw [segments_shoot] at rest
    exact (chained_visits host shot reached).append rest

theorem kind?_of_mem_visits {renderer : Renderer} {host : Host σ} {state : σ} {graph : SceneGraph}
    {camera : Camera} {aspect : Float32} {visit : Visit σ}
    (member : visit ∈ renderer.visits host state graph camera aspect) :
    graph.kind? visit.node = some visit.kind := by
  rw [visits, SceneGraph.unfolding] at member
  cases root : graph.root with
  | none => simp [root] at member
  | some id =>
    simp only [root, Option.map_some, Option.elim_some] at member
    exact Occurrence.kind?_of_mem_visits member

end Renderer

end VrmlWorld
