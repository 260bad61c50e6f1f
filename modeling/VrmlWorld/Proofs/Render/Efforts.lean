/-
  VrmlWorld/Proofs/Render/Efforts.lean
  ====================================
  **What a renderer asks of its host and makes itself, once each.**

  A visit may ask the host for an image or for the bitmap of a text, and it may
  try to make a mesh. These are its efforts, in this order. What a host is asked
  for a film is no more and no less than what is found among the efforts of the
  visits, so that a host which writes down its questions has written down these
  (`Thrifty.host_eq`).

  The three caches have different rules. A name of an image and a text are taken
  note of when they are first met, with whatever comes of it. A mesh is taken
  note of when there is one, and is tried again until then.
-/
import VrmlWorld.Proofs.Render.Recollection
import VrmlWorld.Proofs.Render.References

namespace VrmlWorld

open VrmlWorld.Geometry

/-! ### Questions and efforts -/

/-- What a host can be asked. -/
inductive Question where
  | image (location : Location)
  | bitmap (request : TextRequest)
deriving DecidableEq

/-- The state of a host behind a question. -/
def Host.after {σ : Type} (host : Host σ) (state : σ) : Question → σ
  | .image location => (host.loadTexture location state).2
  | .bitmap request => (host.rasterize request state).2

/-- Something done at a visit that the caches are there to save. -/
inductive Effort where
  /-- The host is asked for the image of a name, which leads to a location. -/
  | image (name : String) (location : Location)
  /-- The host is asked for the bitmap of the text of a node. -/
  | bitmap (node : NodeId) (request : TextRequest)
  /-- A mesh for a node is made, unless nothing is left to draw. -/
  | mesh (node : NodeId) (made : Option Mesh)

namespace Effort

def question? : Effort → Option Question
  | image _ location => some (.image location)
  | bitmap _ request => some (.bitmap request)
  | mesh _ _ => none

/-- The name of an image that the host is asked for. -/
def name? : Effort → Option String
  | image name _ => some name
  | _ => none

/-- The node of a text that the host is asked to make a bitmap of. -/
def text? : Effort → Option NodeId
  | bitmap node _ => some node
  | _ => none

/-- What has come of trying to make a mesh. -/
def made? : Effort → Option (NodeId × Option Mesh)
  | mesh node made => some (node, made)
  | _ => none

/-- The node that a mesh has been made for. -/
def built? : Effort → Option NodeId
  | mesh node (some _) => some node
  | _ => none

end Effort

namespace Visit

variable {σ : Type}

/-- The name and the location of an image that the host is asked for at a visit. -/
def unasked? (visit : Visit σ) : Option (String × Location) :=
  visit.image?.bind fun name =>
    match visit.pass.caches.textures.entries[name]? with
    | some _ => none
    | none => (Location.resolve visit.properties.base name).toOption.map (name, ·)

/-- The text that the host is asked to make a bitmap of at a visit. -/
def unlettered? (visit : Visit σ) : Option TextRequest :=
  visit.request?.bind fun request =>
    match visit.pass.caches.texts[visit.node]? with
    | some _ => none
    | none => some request

/-- The mesh, or the lack of one, that a visit comes to when none is kept. -/
def untried? (visit : Visit σ) (host : Host σ) (view : View) : Option (Option Mesh) :=
  (visit.making? host view).bind fun made =>
    match visit.pass.caches.meshes.get? visit.node with
    | some _ => none
    | none => some made

def efforts (visit : Visit σ) (host : Host σ) (view : View) : List Effort :=
  (visit.unasked?.map fun asked => .image asked.1 asked.2).toList ++
    (visit.unlettered?.map (.bitmap visit.node)).toList ++
    ((visit.untried? host view).map (.mesh visit.node)).toList

section

variable (visit : Visit σ) (host : Host σ) (view : View)

theorem filterMap_name?_efforts :
    (visit.efforts host view).filterMap Effort.name? = (visit.unasked?.map (·.1)).toList := by
  rw [efforts]
  cases visit.unasked? <;> cases visit.unlettered? <;> cases visit.untried? host view <;> rfl

theorem filterMap_text?_efforts :
    (visit.efforts host view).filterMap Effort.text? =
      (visit.unlettered?.map fun _ => visit.node).toList := by
  rw [efforts]
  cases visit.unasked? <;> cases visit.unlettered? <;> cases visit.untried? host view <;> rfl

theorem filterMap_made?_efforts :
    (visit.efforts host view).filterMap Effort.made? =
      ((visit.untried? host view).map (visit.node, ·)).toList := by
  rw [efforts]
  cases visit.unasked? <;> cases visit.unlettered? <;> cases visit.untried? host view <;> rfl

theorem filterMap_question?_efforts :
    (visit.efforts host view).filterMap Effort.question? =
      (visit.unasked?.map fun asked => .image asked.2).toList ++
        (visit.unlettered?.map .bitmap).toList := by
  rw [efforts]
  cases visit.unasked? <;> cases visit.unlettered? <;> cases visit.untried? host view <;> rfl

end

end Visit

/-! ### What an effort leaves behind -/

namespace Pass

variable {σ : Type}

theorem host_shut (pass : Pass σ) (properties : Properties) (node : NodeId) (kind : NodeKind) :
    (pass.shut properties node kind).host = pass.host := by
  cases kind with
  | inline inline =>
    rw [shut]
    split <;> rfl
  | _ => rfl

theorem host_drawShape (pass : Pass σ) (view : View) (properties : Properties) (node : NodeId)
    (kind : NodeKind) : (pass.drawShape view properties node kind).host = pass.host := by
  rw [drawShape]
  generalize made : pass.mesh node _ = answer
  have same : answer.2.host = pass.host := made ▸ rfl
  obtain ⟨mesh, behind⟩ := answer
  cases mesh <;> exact same

theorem host_drawText (pass : Pass σ) (host : Host σ) (view : View) (properties : Properties)
    (node : NodeId) (text : AsciiText) :
    (pass.drawText host view properties node text).host =
      (pass.bitmap host properties node text).2.host := by
  rw [drawText]
  generalize pass.bitmap host properties node text = answer
  obtain ⟨bitmap, between⟩ := answer
  cases bitmap with
  | none => rfl
  | some bitmap =>
    simp only
    generalize made : between.mesh node _ = answer
    have same : answer.2.host = between.host := made ▸ rfl
    obtain ⟨mesh, behind⟩ := answer
    cases mesh <;> exact same

end Pass

theorem TextureCache.load_host {σ : Type} (cache : TextureCache) (host : Host σ) (filename : String)
    (base : Option Location) (state : σ) :
    (cache.load host filename base state).2.2 =
      if filename.isEmpty then state
      else
        match cache.entries[filename]? with
        | some _ => state
        | none => (Location.resolve base filename).toOption.elim state
            fun location => host.after state (.image location) := by
  rw [load]
  by_cases unnamed : filename.isEmpty
  · simp [unnamed]
  · cases kept : cache.entries[filename]? with
    | some handle => simp [unnamed]
    | none =>
      simp only [unnamed, ask]
      cases Location.resolve base filename with
      | error error => rfl
      | ok location =>
        simp only [Host.after, Except.toOption, Option.elim_some]
        obtain ⟨outcome, behind⟩ := host.loadTexture location state
        cases outcome <;> rfl

namespace MeshCache

theorem misses_getOrBuild (cache : MeshCache) (node : NodeId) (build : Unit → Option Mesh) :
    (cache.getOrBuild node build).2.misses =
      cache.misses + if (cache.get? node).isSome then 0 else 1 := by
  rw [getOrBuild]
  cases cache.get? node with
  | some mesh => rfl
  | none => cases build () <;> rfl

end MeshCache

namespace Visit

variable {σ : Type} (visit : Visit σ) (host : Host σ) (view : View)

/-- The host is asked what is found among the efforts of a visit, and nothing else. -/
theorem host_behind :
    (visit.behind host view).2.host =
      ((visit.efforts host view).filterMap Effort.question?).foldl host.after visit.pass.host := by
  rw [filterMap_question?_efforts]
  obtain ⟨node, kind, properties, pass⟩ := visit
  cases kind with
  | texture2 texture =>
    have asked := pass.caches.textures.load_host host texture.filename properties.base pass.host
    simp only [behind, NodeKind.isGroup, Pass.meet, Bool.false_eq_true, if_false, asked]
    simp only [unasked?, image?, unlettered?, request?]
    by_cases unnamed : texture.filename.isEmpty
    · simp [unnamed]
    · simp only [unnamed, Bool.false_eq_true, if_false, Option.bind_some]
      cases pass.caches.textures.entries[texture.filename]? with
      | some handle => rfl
      | none => cases Location.resolve properties.base texture.filename <;> rfl
  | asciiText text =>
    simp only [behind, NodeKind.isGroup, Pass.meet, Bool.false_eq_true, if_false,
      pass.host_drawText, Pass.bitmap]
    simp only [unasked?, image?, unlettered?, request?]
    cases pass.caches.texts[node]? <;> rfl
  | cube | sphere | cone | cylinder | indexedFaceSet | indexedLineSet | pointSet =>
    simp [behind, NodeKind.isGroup, Pass.meet, NodeKind.isShape, pass.host_drawShape, unasked?,
      image?, unlettered?, request?]
  | _ =>
    simp [behind, NodeKind.isGroup, Pass.meet, NodeKind.isShape, pass.host_shut, unasked?, image?,
      unlettered?, request?]

/-- A mesh that is not kept is tried once more at each visit that can. -/
theorem misses_behind :
    (visit.behind host view).2.caches.meshes.misses =
      visit.pass.caches.meshes.misses + ((visit.efforts host view).filterMap Effort.made?).length := by
  rw [filterMap_made?_efforts]
  obtain ⟨node, kind, properties, pass⟩ := visit
  rw [caches_behind]
  cases kind with
  | cube | sphere | cone | cylinder | indexedFaceSet | indexedLineSet | pointSet =>
    simp only [NodeKind.isGroup, Pass.meet, NodeKind.isShape, if_true, Bool.false_eq_true, if_false,
      pass.caches_drawShape, Pass.mesh, MeshCache.misses_getOrBuild, untried?, making?]
    cases pass.caches.meshes.get? node <;> rfl
  | asciiText text =>
    -- The bitmap comes first, and leaves the meshes alone.
    have first := pass.bitmap_fst host properties node text
    have sameMeshes := pass.meshes_bitmap host properties node text
    simp only [NodeKind.isGroup, Pass.meet, Bool.false_eq_true, if_false, pass.caches_drawText,
      untried?, making?]
    generalize pass.bitmap host properties node text = answer at first sameMeshes
    obtain ⟨bitmap, between⟩ := answer
    simp only at first sameMeshes
    rw [← first]
    cases bitmap with
    | none => simp [sameMeshes]
    | some bitmap =>
      simp only [Option.elim_some, Pass.mesh, MeshCache.misses_getOrBuild, sameMeshes]
      cases pass.caches.meshes.get? node <;> rfl
  | _ => simp [NodeKind.isGroup, Pass.meet, NodeKind.isShape, untried?, making?]

end Visit

/-! ### Efforts of a film -/

/-- What is true of all efforts since the caches were last emptied: a name, a text
    and a mesh that there is are among them once, and in the caches. -/
structure Thrifty {σ : Type} (host : Host σ) (state : σ) (efforts : List Effort)
    (caches : Caches) (last : σ) : Prop where
  /-- The host has been asked what is among the efforts, in their order. -/
  host_eq : last = (efforts.filterMap Effort.question?).foldl host.after state
  names_nodup : (efforts.filterMap Effort.name?).Nodup
  names_kept : ∀ name ∈ efforts.filterMap Effort.name?,
    name ≠ "" ∧ ∃ kept, caches.textures.entries[name]? = some kept
  texts_nodup : (efforts.filterMap Effort.text?).Nodup
  texts_kept : ∀ node ∈ efforts.filterMap Effort.text?, ∃ kept, caches.texts[node]? = some kept
  built_nodup : (efforts.filterMap Effort.built?).Nodup
  meshes_kept : ∀ node mesh,
    caches.meshes.get? node = some mesh ↔ Effort.mesh node (some mesh) ∈ efforts
  misses_eq : caches.meshes.misses = (efforts.filterMap Effort.made?).length

theorem thrifty_start {σ : Type} (host : Host σ) (state : σ) : Thrifty host state [] {} state where
  host_eq := rfl
  names_nodup := .nil
  names_kept := by simp
  texts_nodup := .nil
  texts_kept := by simp
  built_nodup := .nil
  meshes_kept := by simp [MeshCache.get?]
  misses_eq := rfl

theorem nodup_append_toList {α : Type} {members : List α} {further : Option α}
    (nodup : members.Nodup) (new : ∀ a, further = some a → a ∉ members) :
    (members ++ further.toList).Nodup := by
  cases further with
  | none => simpa using nodup
  | some a => exact List.nodup_append_comm.1 (List.nodup_cons.2 ⟨new a rfl, nodup⟩)

namespace Visit

variable {σ : Type} {visit : Visit σ} {host : Host σ} {view : View}

/-- The mesh that is made at a visit, if it comes to one. -/
def built? (visit : Visit σ) (host : Host σ) (view : View) : Option Mesh :=
  (visit.untried? host view).join

theorem filterMap_built?_efforts (visit : Visit σ) (host : Host σ) (view : View) :
    (visit.efforts host view).filterMap Effort.built? =
      ((visit.built? host view).map fun _ => visit.node).toList := by
  rw [efforts, built?]
  cases visit.unasked? <;> cases visit.unlettered? <;> cases made : visit.untried? host view with
  | none => rfl
  | some mesh => cases mesh <;> rfl

theorem mesh_mem_efforts {node : NodeId} {mesh : Mesh} :
    .mesh node (some mesh) ∈ visit.efforts host view ↔
      node = visit.node ∧ visit.built? host view = some mesh := by
  rw [efforts, built?]
  cases visit.unasked? <;> cases visit.unlettered? <;> cases visit.untried? host view <;>
    simp [eq_comm]

theorem unasked?_eq_some {name : String} {location : Location}
    (asked : visit.unasked? = some (name, location)) :
    visit.image? = some name ∧ visit.pass.caches.textures.entries[name]? = none := by
  obtain ⟨other, isImage, asked⟩ := Option.bind_eq_some_iff.1 asked
  cases kept : visit.pass.caches.textures.entries[other]? with
  | some handle => simp [kept] at asked
  | none =>
    obtain ⟨-, rfl⟩ : _ ∧ other = name := by simpa [kept] using asked
    exact ⟨isImage, kept⟩

theorem unlettered?_eq_some {request : TextRequest} (asked : visit.unlettered? = some request) :
    visit.request? = some request ∧ visit.pass.caches.texts[visit.node]? = none := by
  obtain ⟨other, isText, asked⟩ := Option.bind_eq_some_iff.1 asked
  cases kept : visit.pass.caches.texts[visit.node]? with
  | some bitmap => simp [kept] at asked
  | none => exact ⟨by simpa [kept, isText] using asked, rfl⟩

/-- A mesh is made where it is found and has not been kept. -/
theorem built?_eq_some_iff {mesh : Mesh} :
    visit.built? host view = some mesh ↔
      visit.pass.caches.meshes.get? visit.node = none ∧ visit.mesh? host view = some mesh := by
  rw [built?, untried?, mesh?_eq_bind]
  cases visit.making? host view with
  | none => simp
  | some made => cases kept : visit.pass.caches.meshes.get? visit.node <;> simp [keptOr, kept]

theorem image?_ne_empty {name : String} (isImage : visit.image? = some name) : name ≠ "" := by
  rw [image?] at isImage
  split at isImage
  · split at isImage
    · cases isImage
    · rename_i named
      obtain rfl := Option.some.inj isImage
      simpa using named
  · cases isImage

theorem isSome_lettered? {request : TextRequest} (host : Host σ)
    (isText : visit.request? = some request) : ∃ bitmap, visit.lettered? host = some bitmap := by
  obtain ⟨node, kind, properties, pass⟩ := visit
  cases kind with
  | asciiText text => exact ⟨_, rfl⟩
  | _ => cases isText

end Visit

namespace Thrifty

variable {σ : Type} {host : Host σ} {state : σ} {efforts : List Effort} {visit : Visit σ}

/-- A visit makes no effort that has been made before, and keeps what comes of it. -/
theorem behind (thrifty : Thrifty host state efforts visit.pass.caches visit.pass.host)
    (view : View) :
    Thrifty host state (efforts ++ visit.efforts host view) (visit.behind host view).2.caches
      (visit.behind host view).2.host where
  host_eq := by
    rw [visit.host_behind, List.filterMap_append, List.foldl_append, ← thrifty.host_eq]
  names_nodup := by
    rw [List.filterMap_append, visit.filterMap_name?_efforts]
    refine nodup_append_toList thrifty.names_nodup fun name new member => ?_
    obtain ⟨⟨_, location⟩, asked, rfl⟩ := Option.map_eq_some_iff.1 new
    obtain ⟨-, kept, isKept⟩ := thrifty.names_kept _ member
    rw [(Visit.unasked?_eq_some asked).2] at isKept
    cases isKept
  names_kept := by
    intro name member
    rw [visit.getElem?_textures_behind]
    rw [List.filterMap_append, visit.filterMap_name?_efforts] at member
    obtain earlier | now := List.mem_append.1 member
    · obtain ⟨named, kept, isKept⟩ := thrifty.names_kept name earlier
      exact ⟨named, kept, by rw [isKept]; rfl⟩
    · obtain ⟨⟨_, location⟩, asked, rfl⟩ := Option.map_eq_some_iff.1 (Option.mem_toList.1 now)
      obtain ⟨isImage, unkept⟩ := Visit.unasked?_eq_some asked
      exact ⟨Visit.image?_ne_empty isImage, _, by rw [unkept, if_pos isImage]; rfl⟩
  texts_nodup := by
    rw [List.filterMap_append, visit.filterMap_text?_efforts]
    refine nodup_append_toList thrifty.texts_nodup fun node new member => ?_
    obtain ⟨request, asked, rfl⟩ := Option.map_eq_some_iff.1 new
    obtain ⟨kept, isKept⟩ := thrifty.texts_kept _ member
    rw [(Visit.unlettered?_eq_some asked).2] at isKept
    cases isKept
  texts_kept := by
    intro node member
    rw [visit.getElem?_texts_behind]
    rw [List.filterMap_append, visit.filterMap_text?_efforts] at member
    obtain earlier | now := List.mem_append.1 member
    · obtain ⟨kept, isKept⟩ := thrifty.texts_kept node earlier
      exact ⟨kept, by rw [isKept]; rfl⟩
    · obtain ⟨request, asked, rfl⟩ := Option.map_eq_some_iff.1 (Option.mem_toList.1 now)
      obtain ⟨isText, unkept⟩ := Visit.unlettered?_eq_some asked
      obtain ⟨bitmap, found⟩ := Visit.isSome_lettered? host isText
      exact ⟨bitmap, by rw [unkept, if_pos rfl, found]; rfl⟩
  built_nodup := by
    rw [List.filterMap_append, visit.filterMap_built?_efforts]
    refine nodup_append_toList thrifty.built_nodup fun node new member => ?_
    obtain ⟨mesh, made, rfl⟩ := Option.map_eq_some_iff.1 new
    obtain ⟨effort, among, built⟩ := List.mem_filterMap.1 member
    -- An earlier mesh for the node would be kept, and none would have been made now.
    obtain ⟨kept, rfl⟩ : ∃ kept, effort = .mesh visit.node (some kept) := by
      cases effort with
      | mesh node made =>
        cases made with
        | none => cases built
        | some kept => exact ⟨kept, by rw [Option.some.inj built]⟩
      | _ => cases built
    rw [← thrifty.meshes_kept, (Visit.built?_eq_some_iff.1 made).1] at among
    cases among
  meshes_kept := by
    intro node mesh
    rw [visit.get?_meshes_behind, List.mem_append, ← thrifty.meshes_kept, Visit.mesh_mem_efforts,
      Visit.built?_eq_some_iff]
    by_cases same : node = visit.node
    · subst same
      cases kept : visit.pass.caches.meshes.get? visit.node <;> simp
    · simp [same]
  misses_eq := by
    rw [visit.misses_behind host view, List.filterMap_append, List.length_append,
      ← thrifty.misses_eq]

end Thrifty

/-! ### What is remembered -/

namespace Visit

variable {σ γ : Type} {host : Host σ} {segments : Nat} {caches last : Caches}
  {entry : Caches → Option γ} {find : Visit σ → Option γ} {visit : Visit σ}
  {before after : List (Visit σ)}

/-- The visits before one of a chain are a chain that ends with its caches. -/
theorem Chained.until_visit (chained : Chained host segments caches (before ++ visit :: after) last) :
    Chained host segments caches before visit.pass.caches := by
  induction before generalizing caches with
  | nil =>
    cases chained
    exact .nil
  | cons first before ih =>
    cases chained with
    | cons view cut rest => exact .cons view cut (ih rest)

/-- What a visit has found is kept at all later visits, and behind them. -/
theorem Recorded.kept_after (recorded : Recorded host segments entry find)
    (chained : Chained host segments caches (before ++ visit :: after) last) {found : γ}
    (isFound : find visit = some found) :
    entry last = some found ∧ ∀ later ∈ after, entry later.pass.caches = some found := by
  refine ⟨recorded.lasting chained visit (by simp) found isFound, fun later member => ?_⟩
  obtain ⟨between, rest, rfl⟩ := List.append_of_mem member
  rw [← List.cons_append, ← List.append_assoc] at chained
  exact recorded.lasting chained.until_visit visit (by simp) found isFound

/-- A name that is kept is not asked for, and what is kept is found. -/
theorem of_kept_name {name : String} {kept : Option TextureHandle}
    (isKept : visit.pass.caches.textures.entries[name]? = some kept)
    (isImage : visit.image? = some name) :
    visit.texture? host name = kept ∧ visit.unasked? = none := by
  simp [texture?, unasked?, isImage, isKept]

theorem of_kept_text {kept : Option TextBitmap}
    (isKept : visit.pass.caches.texts[visit.node]? = some kept) :
    (∀ found, visit.lettered? host = some found → found = kept) ∧ visit.unlettered? = none := by
  constructor
  · exact fun found => (recorded_bitmap host 0 visit.node).agrees visit kept found isKept ∘
      fun isFound => by simpa using isFound
  · cases isText : visit.request? <;> simp [unlettered?, isText, isKept]

end Visit

namespace Renderer

variable {σ : Type}

/-- The efforts made for the frames of some shots. -/
def efforts (host : Host σ) : List Shot → Renderer × σ → List Effort :=
  trail (shoot host) fun shot reached =>
    let view := reached.1.view (reached.1.lights shot.graph shot.camera) shot.camera shot.aspect
    (reached.1.visits host reached.2 shot.graph shot.camera shot.aspect).flatMap
      (·.efforts host view)

/-- One frame more keeps what has been true of all efforts. -/
theorem thrifty_shoot {host : Host σ} {state : σ} {done : List Effort} {reached : Renderer × σ}
    (thrifty : Thrifty host state done reached.1.caches reached.2) (shot : Shot) :
    Thrifty host state (done ++ efforts host [shot] reached) (shoot host shot reached).1.caches
      (shoot host shot reached).2 := by
  simp only [efforts, trail, List.append_nil, shoot, render, visits]
  cases shot.graph.unfolding with
  | none => simpa using thrifty
  | some root =>
    simp only [Option.elim_some]
    generalize reached.1.view (reached.1.lights shot.graph shot.camera) shot.camera shot.aspect = view
    refine root.kept_of_visits (P := fun seen pass => Thrifty host state
      (done ++ seen.flatMap (·.efforts host view)) pass.caches pass.host) host view []
      ({ base := shot.graph.base }, { caches := reached.1.caches, host := reached.2 })
      (by simpa using thrifty) ?_
    intro seen visit _ kept
    simpa [List.append_assoc] using kept.behind view

theorem thrifty_foldl_shoot {host : Host σ} {state : σ} (shots : List Shot) {done : List Effort}
    {reached : Renderer × σ} (thrifty : Thrifty host state done reached.1.caches reached.2) :
    let last := shots.foldl (fun reached shot => shoot host shot reached) reached
    Thrifty host state (done ++ efforts host shots reached) last.1.caches last.2 := by
  induction shots generalizing done reached with
  | nil => simpa [efforts, trail] using thrifty
  | cons shot shots ih =>
    have first := thrifty_shoot thrifty shot
    simpa [efforts, trail, List.append_assoc] using ih first

/-- From one emptying of the caches to the next, whatever scenes and cameras the
    frames are of, and whatever the host answers:

    The host is asked for no name of an image twice, for none that is empty, and
    for the bitmap of no text twice. A mesh is made for no node twice; the
    renderer counts how often it has tried.

    What a visit has found for a name or for a text, and be it nothing, is kept,
    and at no later visit is the host asked for it again. -/
theorem asks_and_builds_once (renderer : Renderer) (host : Host σ) (state : σ)
    (shots : List Shot) :
    let start := (renderer.clear, state)
    let last := shots.foldl (fun reached shot => shoot host shot reached) start
    Thrifty host state (efforts host shots start) last.1.caches last.2 ∧
    ∀ before visit after, footage host shots start = before ++ visit :: after →
      (∀ name, visit.image? = some name →
        last.1.caches.textures.entries[name]? = some (visit.texture? host name) ∧
        ∀ later ∈ after, later.image? = some name →
          later.texture? host name = visit.texture? host name ∧ later.unasked? = none) ∧
      (∀ bitmap, visit.lettered? host = some bitmap →
        last.1.caches.texts[visit.node]? = some bitmap ∧
        ∀ later ∈ after, later.node = visit.node →
          (∀ found, later.lettered? host = some found → found = bitmap) ∧
            later.unlettered? = none) := by
  intro start last
  have thrifty : Thrifty host state [] start.1.caches start.2 := thrifty_start host state
  refine ⟨by simpa using thrifty_foldl_shoot shots thrifty, ?_⟩
  intro before visit after split
  have chained : Visit.Chained host renderer.segments {} (before ++ visit :: after)
      last.1.caches := split ▸ chained_footage host shots start
  refine ⟨fun name isImage => ?_, fun bitmap isFound => ?_⟩
  · obtain ⟨atEnd, onTheWay⟩ := (Visit.recorded_texture host renderer.segments name).kept_after
      chained (if_pos isImage)
    exact ⟨atEnd, fun later member isImage' => Visit.of_kept_name (onTheWay later member) isImage'⟩
  · obtain ⟨atEnd, onTheWay⟩ := (Visit.recorded_bitmap host renderer.segments visit.node).kept_after
      chained ((if_pos rfl).trans isFound)
    refine ⟨atEnd, fun later member sameNode => Visit.of_kept_text ?_⟩
    rw [sameNode]
    exact onTheWay later member

end Renderer

end VrmlWorld
