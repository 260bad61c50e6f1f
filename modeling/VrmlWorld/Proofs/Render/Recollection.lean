/-
  VrmlWorld/Proofs/Render/Recollection.lean
  =========================================
  **Which mesh a shape is drawn with.**

  A shape is tessellated with the properties that hold where it is first met, and
  is drawn with that mesh from then on, whatever holds at later visits. Where
  nothing is left to draw it is tried again at the next visit. The bitmap of a
  text is that of its first visit of all (`Visit.firstMesh?`).

  This is the mesh of the visit at hand wherever the properties that meshes are
  made from are the same at all visits of a shape. They are in scenes without a
  second occurrence of any shape whose levels of detail leak nothing; they need
  not be in other scenes.
-/
import VrmlWorld.Proofs.Render.Leaks
import VrmlWorld.Proofs.Render.Memory

namespace VrmlWorld

open VrmlWorld.Geometry

namespace Visit

variable {σ : Type}

/-! ### What can be made at a visit -/

def request? (visit : Visit σ) : Option TextRequest :=
  match visit.kind with
  | .asciiText text =>
      some ⟨text.strings, visit.properties.font, text.justification, text.spacing⟩
  | _ => none

/-- The mesh that can be made of a visited shape, given the bitmap of a text. -/
def made? (visit : Visit σ) (bitmap : Option TextBitmap) (segments : Nat) : Option Mesh :=
  match visit.kind with
  | .asciiText text =>
      bitmap.bind fun bitmap => Tessellation.textQuad? visit.properties.font text.justification
        text.spacing text.strings.length bitmap.aspect
  | kind => tessellate? kind (visit.properties.context segments)

/-- The mesh of a shape as it is at this visit. -/
def fresh? (visit : Visit σ) (bitmaps : TextRequest → Option TextBitmap) (segments : Nat) :
    Option Mesh :=
  visit.made? (visit.request?.bind bitmaps) segments

theorem fresh?_of_not_shape {visit : Visit σ} {bitmaps : TextRequest → Option TextBitmap}
    {segments : Nat} (other : visit.kind.isShape = false) : visit.fresh? bitmaps segments = none := by
  obtain ⟨node, kind, properties, pass⟩ := visit
  cases kind <;> first | rfl | cases other

def firstBitmap? (bitmaps : TextRequest → Option TextBitmap) (sightings : List (Visit σ)) :
    Option TextBitmap :=
  (sightings.head?.bind request?).bind bitmaps

/-- The mesh of a shape that has been met at some visits: that of the first of
    them where one could be made. -/
def firstMesh? (bitmaps : TextRequest → Option TextBitmap) (segments : Nat)
    (sightings : List (Visit σ)) : Option Mesh :=
  sightings.findSome? (·.made? (firstBitmap? bitmaps sightings) segments)

variable {bitmaps : TextRequest → Option TextBitmap} {segments : Nat} {host : Host σ} {view : View}

theorem firstMesh?_singleton (visit : Visit σ) :
    firstMesh? bitmaps segments [visit] = visit.fresh? bitmaps segments := by
  simp [firstMesh?, firstBitmap?, fresh?]

theorem firstMesh?_append {sightings : List (Visit σ)} (met : sightings ≠ []) (visit : Visit σ) :
    firstMesh? bitmaps segments (sightings ++ [visit]) =
      (firstMesh? bitmaps segments sightings <|>
        visit.made? (firstBitmap? bitmaps sightings) segments) := by
  have sameBitmap : firstBitmap? bitmaps (sightings ++ [visit]) = firstBitmap? bitmaps sightings := by
    rw [firstBitmap?, List.head?_append_of_ne_nil _ met, firstBitmap?]
  simp [firstMesh?, sameBitmap]

theorem made?_of_making? {visit : Visit σ} {bitmap : Option TextBitmap} {made : Option Mesh}
    (lettered : ∀ found, visit.lettered? host = some found → found = bitmap)
    (making : visit.making? host view = some made) : visit.made? bitmap view.segments = made := by
  obtain ⟨node, kind, properties, pass⟩ := visit
  cases kind with
  | asciiText text =>
    obtain rfl := lettered _ rfl
    obtain ⟨bitmap, found, rfl⟩ := Option.map_eq_some_iff.1 making
    simp [made?, found]
  | cube | sphere | cone | cylinder | indexedFaceSet | indexedLineSet | pointSet =>
    exact Option.some.inj making
  | _ => cases making

/-- Where nothing can be made at a visit, nothing can be at any other visit of
    the node. -/
theorem made?_eq_none {visit other : Visit σ} {bitmap : Option TextBitmap}
    (lettered : ∀ found, visit.lettered? host = some found → found = bitmap)
    (making : visit.making? host view = none) (sameKind : other.kind = visit.kind) :
    other.made? bitmap segments = none := by
  obtain ⟨node, kind, properties, pass⟩ := visit
  cases kind with
  | asciiText text =>
    obtain rfl := lettered _ rfl
    have unlettered := Option.map_eq_none_iff.1 making
    simp [made?, sameKind, unlettered]
  | cube | sphere | cone | cylinder | indexedFaceSet | indexedLineSet | pointSet => cases making
  | _ => simp [made?, sameKind, tessellate?]

/-! ### What caches recollect -/

def sightings (node : NodeId) (visits : List (Visit σ)) : List (Visit σ) :=
  visits.filter (·.node = node)

theorem sightings_append_self (visits : List (Visit σ)) (visit : Visit σ) :
    sightings visit.node (visits ++ [visit]) = sightings visit.node visits ++ [visit] := by
  simp [sightings]

theorem sightings_append_other {node : NodeId} {visit : Visit σ} (other : node ≠ visit.node)
    (visits : List (Visit σ)) : sightings node (visits ++ [visit]) = sightings node visits := by
  simp [sightings, Ne.symm other]

/-- Caches that hold what has been made at some visits of a scene, each thing at
    the first visit where it could be. -/
structure Recollected (kinds : NodeId → Option NodeKind) (bitmaps : TextRequest → Option TextBitmap)
    (segments : Nat) (seen : List (Visit σ)) (caches : Caches) : Prop where
  kinds : ∀ visit ∈ seen, kinds visit.node = some visit.kind
  meshes : ∀ node, caches.meshes.get? node = firstMesh? bitmaps segments (sightings node seen)
  texts : ∀ node : NodeId,
    caches.texts[node]? = ((sightings node seen).head?.bind request?).map bitmaps

namespace Recollected

variable {kinds : NodeId → Option NodeKind} {seen : List (Visit σ)} {visit : Visit σ}

theorem kind_eq (recollected : Recollected kinds bitmaps segments seen visit.pass.caches)
    (isKind : kinds visit.node = some visit.kind) :
    ∀ other ∈ sightings visit.node seen, other.kind = visit.kind := by
  intro other among
  obtain ⟨member, sameNode⟩ := List.mem_filter.1 among
  have here := recollected.kinds other member
  rw [of_decide_eq_true sameNode, isKind] at here
  exact (Option.some.inj here).symm

theorem bitmap_eq (recollected : Recollected kinds bitmaps segments seen visit.pass.caches)
    (letters : host.LettersBy bitmaps) (isKind : kinds visit.node = some visit.kind) :
    ∀ found, visit.lettered? host = some found →
      found = firstBitmap? bitmaps (sightings visit.node (seen ++ [visit])) := by
  intro found isFound
  have kept := recollected.texts visit.node
  have same := recollected.kind_eq isKind
  rw [sightings_append_self, firstBitmap?]
  cases kind : visit.kind with
  | asciiText text =>
    simp only [lettered?, kind, Option.some.injEq, bitmap?] at isFound
    cases earlier : sightings visit.node seen with
    | nil =>
      rw [earlier] at kept
      simp only [kept, List.head?_nil, Option.bind_none, Option.map_none, Option.getD_none] at isFound
      rw [letters _ _] at isFound
      simp [request?, kind, isFound]
    | cons first others =>
      have sameKind := same first (by simp [earlier])
      simp only [earlier, List.head?_cons, Option.bind_some, request?, sameKind, kind,
        Option.map_some] at kept
      simp only [kept, Option.getD_some] at isFound
      simp [request?, sameKind, kind, isFound]
  | _ => simp [lettered?, kind] at isFound

/-- What is drawn at a visit has been made at the first visit where it could be. -/
theorem mesh?_eq (recollected : Recollected kinds bitmaps view.segments seen visit.pass.caches)
    (letters : host.LettersBy bitmaps) (isKind : kinds visit.node = some visit.kind) :
    visit.mesh? host view =
      firstMesh? bitmaps view.segments (sightings visit.node (seen ++ [visit])) := by
  have lettered := recollected.bitmap_eq letters isKind
  have kept := recollected.meshes visit.node
  have same := recollected.kind_eq isKind
  rw [sightings_append_self] at lettered ⊢
  rw [mesh?_eq_bind]
  cases making : visit.making? host view with
  | none =>
    symm
    refine List.findSome?_eq_none_iff.2 fun other among => ?_
    refine made?_eq_none lettered making ?_
    obtain earlier | now := List.mem_append.1 among
    · exact same other earlier
    · rw [List.mem_singleton.1 now]
  | some made =>
    have isMade := made?_of_making? lettered making
    rw [Option.bind_some, keptOr, kept]
    by_cases met : sightings visit.node seen = []
    · simp only [met, List.nil_append] at isMade ⊢
      rw [firstMesh?_singleton, ← isMade]
      simp [firstMesh?, firstBitmap?, fresh?]
    · rw [firstMesh?_append met, ← isMade, firstBitmap?, List.head?_append_of_ne_nil _ met,
        firstBitmap?]

theorem recollected_empty (kinds : NodeId → Option NodeKind)
    (bitmaps : TextRequest → Option TextBitmap) (segments : Nat) :
    Recollected kinds bitmaps segments ([] : List (Visit σ)) {} where
  kinds visit member := nomatch member
  meshes node := by simp [MeshCache.get?, sightings, firstMesh?]
  texts node := by simp [sightings]

theorem behind (recollected : Recollected kinds bitmaps view.segments seen visit.pass.caches)
    (letters : host.LettersBy bitmaps) (isKind : kinds visit.node = some visit.kind) :
    Recollected kinds bitmaps view.segments (seen ++ [visit]) (visit.behind host view).2.caches := by
  refine ⟨?_, ?_, ?_⟩
  · intro other member
    obtain earlier | now := List.mem_append.1 member
    · exact recollected.kinds other earlier
    · rwa [List.mem_singleton.1 now]
  · intro node
    rw [get?_meshes_behind, recollected.meshes]
    by_cases here : node = visit.node
    · subst here
      rw [if_pos rfl, recollected.mesh?_eq letters isKind, sightings_append_self]
      by_cases met : sightings visit.node seen = []
      · simp [met, firstMesh?]
      · rw [firstMesh?_append met]
        cases firstMesh? bitmaps view.segments (sightings visit.node seen) <;> rfl
    · simp [here, sightings_append_other here]
  · intro node
    rw [getElem?_texts_behind, recollected.texts]
    by_cases here : node = visit.node
    · subst here
      have lettered := recollected.bitmap_eq letters isKind
      rw [sightings_append_self] at lettered
      rw [if_pos rfl, sightings_append_self]
      cases earlier : sightings visit.node seen with
      | nil =>
        cases kind : visit.kind with
        | asciiText text =>
          have found := lettered _ (by rw [lettered?, kind])
          simp [lettered?, kind, found, earlier, firstBitmap?, request?]
        | _ => simp [lettered?, request?, kind]
      | cons first others =>
        have sameKind := recollected.kind_eq isKind first (by simp [earlier])
        cases kind : visit.kind with
        | asciiText text => simp [request?, sameKind, kind]
        | _ => simp [lettered?, request?, sameKind, kind]
    · simp [here, sightings_append_other here]

end Recollected

/-- Where the properties that meshes are made from have been the same at all
    visits of a shape, its mesh is that of the last visit as well. -/
theorem firstMesh?_of_alike {earlier : List (Visit σ)} {visit : Visit σ}
    (alike : ∀ other ∈ earlier, other.kind = visit.kind ∧
      other.properties.shaping = visit.properties.shaping) :
    firstMesh? bitmaps segments (earlier ++ [visit]) = visit.fresh? bitmaps segments := by
  have made (other : Visit σ) (among : other ∈ earlier) (bitmap : Option TextBitmap) :
      other.made? bitmap segments = visit.made? bitmap segments := by
    obtain ⟨sameKind, same⟩ := alike other among
    simp only [made?, sameKind, Properties.font_eq_of_shaping_eq same,
      Properties.context_eq_of_shaping_eq same]
  cases earlier with
  | nil => exact firstMesh?_singleton visit
  | cons first others =>
    obtain ⟨sameKind, same⟩ := alike first (List.mem_cons_self ..)
    have request : first.request? = visit.request? := by
      simp only [request?, sameKind, Properties.font_eq_of_shaping_eq same]
    have bitmap : firstBitmap? bitmaps (first :: others ++ [visit]) =
        visit.request?.bind bitmaps := by
      simp [firstBitmap?, request]
    have each : ∀ other ∈ first :: others ++ [visit],
        other.made? (visit.request?.bind bitmaps) segments = visit.fresh? bitmaps segments := by
      intro other among
      obtain before | now := List.mem_append.1 among
      · exact made other before _
      · rw [List.mem_singleton.1 now, fresh?]
    rw [firstMesh?, bitmap]
    cases fresh : visit.fresh? bitmaps segments with
    | none =>
      refine List.findSome?_eq_none_iff.2 fun other among => ?_
      rw [each other among, fresh]
    | some mesh =>
      rw [List.cons_append, List.findSome?_cons, each first (by simp), fresh]

section Chains

variable {kinds : NodeId → Option NodeKind} {last : Caches} {visits before after : List (Visit σ)}
  {visit : Visit σ}

/-- Each visit of a chain that began with empty caches finds there what has been
    made at the visits before it. -/
theorem Chained.recollected (chained : Chained host segments {} visits last)
    (letters : host.LettersBy bitmaps)
    (isKind : ∀ visit ∈ visits, kinds visit.node = some visit.kind)
    (split : visits = before ++ visit :: after) :
    Recollected kinds bitmaps segments before visit.pass.caches := by
  refine (chained.history ?_ [] (Recollected.recollected_empty kinds bitmaps segments)).2 before visit
    after split
  rintro seen visit member view rfl recollected
  exact recollected.behind letters (isKind visit member)

theorem Chained.mesh?_eq (chained : Chained host segments {} visits last)
    (letters : host.LettersBy bitmaps)
    (isKind : ∀ visit ∈ visits, kinds visit.node = some visit.kind)
    (cut : view.segments = segments) (split : visits = before ++ visit :: after) :
    visit.mesh? host view =
      firstMesh? bitmaps segments (sightings visit.node (before ++ [visit])) := by
  have recollected := chained.recollected letters isKind split
  have among : visit ∈ visits := by simp [split]
  subst cut
  exact recollected.mesh?_eq letters (isKind visit among)

theorem Chained.mesh?_eq_fresh? (chained : Chained host segments {} visits last)
    (letters : host.LettersBy bitmaps)
    (isKind : ∀ visit ∈ visits, kinds visit.node = some visit.kind)
    (cut : view.segments = segments) (split : visits = before ++ visit :: after)
    (alike : ∀ other ∈ before, other.node = visit.node → other.kind = visit.kind →
      other.properties.shaping = visit.properties.shaping) :
    visit.mesh? host view = visit.fresh? bitmaps segments := by
  rw [chained.mesh?_eq letters isKind cut split, sightings_append_self]
  apply firstMesh?_of_alike
  intro other among
  have among' : other ∈ before := (List.mem_filter.1 among).1
  have sameNode : other.node = visit.node := of_decide_eq_true (List.mem_filter.1 among).2
  have sameKind := (chained.recollected letters isKind split).kind_eq
    (isKind visit (by simp [split])) other among
  exact ⟨sameKind, alike other among' sameNode sameKind⟩

end Chains

end Visit

namespace Renderer

variable {σ : Type}

theorem mem_footage_still {host : Host σ} {graph : SceneGraph} {shots : List Shot}
    (still : ∀ shot ∈ shots, shot.graph = graph) {start : Renderer × σ} {visit : Visit σ}
    (member : visit ∈ footage host shots start) :
    ∃ (reached : Renderer × σ) (camera : Camera) (aspect : Float32),
      visit ∈ reached.1.visits host reached.2 graph camera aspect := by
  obtain ⟨shot, among, reached, found⟩ := mem_trail member
  exact ⟨reached, shot.camera, shot.aspect, still shot among ▸ found⟩

/-- Whatever has been visited in frames of one scene, each shape has been found
    with the same shaping properties, if the scene is steady and no shape of it
    has two occurrences. -/
theorem shaping_eq_of_mem_visits {host : Host σ} {graph : SceneGraph} {root : Occurrence}
    (unfolds : graph.unfolding = some root) (once : root.shapes.Nodup) (steady : root.isSteady)
    {reached other : Renderer × σ} {camera camera' : Camera} {aspect aspect' : Float32}
    {visit visit' : Visit σ} (member : visit ∈ reached.1.visits host reached.2 graph camera aspect)
    (member' : visit' ∈ other.1.visits host other.2 graph camera' aspect')
    (shape : visit.kind.isShape) (shape' : visit'.kind.isShape)
    (sameNode : visit.node = visit'.node) :
    visit.properties.shaping = visit'.properties.shaping := by
  simp only [visits, unfolds, Option.elim_some] at member member'
  refine (Occurrence.visits_agree steady once _ _ ?_).2 visit member visit' member' shape shape'
    sameNode
  rfl

/-- A frame of a scene, after some others of the same scene, with a renderer that
    had made nothing before them.

    It draws the shapes that it visits, each with the mesh made at the first of
    all visits of the shape where one could be made, and a text with the bitmap
    that was asked for at its first visit.

    If no shape of the scene has two occurrences and no level of detail leaks,
    that is the mesh made of the shape as it is at the visit. -/
theorem draws_recollected_meshes (renderer : Renderer) {host : Host σ}
    {bitmaps : TextRequest → Option TextBitmap} (letters : host.LettersBy bitmaps) (state : σ)
    (graph : SceneGraph) (earlier : List (Camera × Float32)) (camera : Camera) (aspect : Float32) :
    let shots := earlier.map fun (camera, aspect) => (⟨graph, camera, aspect⟩ : Shot)
    let seen := footage host shots (renderer.clear, state)
    let reached := shots.foldl (fun reached shot => shoot host shot reached) (renderer.clear, state)
    let view := reached.1.view (reached.1.lights graph camera) camera aspect
    let visits := reached.1.visits host reached.2 graph camera aspect
    let draws := (reached.1.render host reached.2 graph camera aspect).1.draws.toList
    (draws.map fun draw => (draw.node, draw.model, draw.mesh)) =
      visits.filterMap (fun visit => (visit.mesh? host view).map fun mesh =>
        (visit.node, visit.properties.transform, mesh)) ∧
    (∀ before visit after, visits = before ++ visit :: after →
      visit.mesh? host view = Visit.firstMesh? bitmaps renderer.segments
        (Visit.sightings visit.node (seen ++ before ++ [visit]))) ∧
    (∀ root, graph.unfolding = some root → root.shapes.Nodup → root.isSteady →
      ∀ visit ∈ visits, visit.mesh? host view = visit.fresh? bitmaps renderer.segments) := by
  intro shots seen reached view visits draws
  have cut : reached.1.segments = renderer.segments :=
    segments_foldl_shoot host shots (renderer.clear, state)
  have filmed : Visit.Chained host renderer.segments {} seen reached.1.caches :=
    chained_footage host shots (renderer.clear, state)
  have shown : Visit.Chained host renderer.segments reached.1.caches visits
      (shoot host ⟨graph, camera, aspect⟩ reached).1.caches := by
    rw [← cut]
    exact chained_visits host ⟨graph, camera, aspect⟩ reached
  have chained := filmed.append shown
  have still : ∀ shot ∈ shots, shot.graph = graph := by
    intro shot among
    obtain ⟨looked, -, rfl⟩ := List.mem_map.1 among
    rfl
  -- every visit of the film is one of a frame of the scene
  have filmed' : ∀ visit ∈ seen ++ visits, ∃ (reached : Renderer × σ) (camera : Camera)
      (aspect : Float32), visit ∈ reached.1.visits host reached.2 graph camera aspect := by
    intro visit member
    obtain earlier | now := List.mem_append.1 member
    · exact mem_footage_still still earlier
    · exact ⟨reached, camera, aspect, now⟩
  have isKind : ∀ visit ∈ seen ++ visits, graph.kind? visit.node = some visit.kind := by
    intro visit member
    obtain ⟨_, _, _, found⟩ := filmed' visit member
    exact kind?_of_mem_visits found
  have filmSplit {before after : List (Visit σ)} {visit : Visit σ}
      (split : visits = before ++ visit :: after) :
      seen ++ visits = (seen ++ before) ++ visit :: after := by
    rw [split, List.append_assoc]
  refine ⟨?_, ?_, ?_⟩
  · have drawn := reached.1.draws_render host reached.2 graph camera aspect
    simp only [draws, drawn, List.map_filterMap, Visit.map_draw?]
    rfl
  · intro before visit after split
    exact chained.mesh?_eq letters isKind cut (filmSplit split)
  · intro root unfolds once steady visit member
    obtain ⟨before, after, split⟩ := List.append_of_mem member
    cases shape : visit.kind.isShape with
    | false => rw [Visit.mesh?_of_not_shape host view shape, Visit.fresh?_of_not_shape shape]
    | true =>
      apply chained.mesh?_eq_fresh? letters isKind cut (filmSplit split)
      intro other among sameNode sameKind
      have among' : other ∈ seen ++ visits := by
        rw [filmSplit split]
        exact List.mem_append_left _ among
      obtain ⟨_, _, _, found⟩ := filmed' other among'
      have shape' : other.kind.isShape := by rw [sameKind, shape]
      exact shaping_eq_of_mem_visits unfolds once steady found member shape' shape sameNode

/-- The scene of `Group { LOD { range 5 Cube {} Sphere {} } Cone {} }`. -/
def levelsOfShapes : SceneGraph :=
  { ((((SceneGraph.empty.insert { kind := .cube {} }).insert { kind := .sphere {} }).insert
      { kind := .lod { range := [5] }, children := [⟨0⟩, ⟨1⟩] }).insert { kind := .cone {} }).insert
      { kind := .group .group, children := [⟨2⟩, ⟨3⟩] } with root := some ⟨4⟩ }

/-- Seen from near by and then from afar, all that the scene shows is made as it
    is. -/
theorem fresh_meshes_of_levelsOfShapes :
    let host : Host Unit :=
      { loadTexture := fun _ state => (.error .noRootNode, state)
        rasterize := fun _ state => (none, state) }
    let near : Camera := { Camera.ofSettings {} with position := ⟨0, 0, 2⟩ }
    let far : Camera := { Camera.ofSettings {} with position := ⟨0, 0, 20⟩ }
    let reached := shoot host ⟨levelsOfShapes, near, 1⟩ ((ofSettings {}).clear, ())
    let view := reached.1.view (reached.1.lights levelsOfShapes far) far 1
    host.LettersBy (fun _ => none) ∧
      (levelsOfShapes.unfold 6 ⟨4⟩).shapes.Nodup ∧ (levelsOfShapes.unfold 6 ⟨4⟩).isSteady ∧
      ∀ visit ∈ reached.1.visits host reached.2 levelsOfShapes far 1,
        visit.mesh? host view = visit.fresh? (fun _ => none) 20 := by
  intro host near far reached view
  have letters : host.LettersBy (fun _ => none) := fun _ _ => rfl
  have once : (levelsOfShapes.unfold 6 ⟨4⟩).shapes.Nodup := by decide
  have steady : (levelsOfShapes.unfold 6 ⟨4⟩).isSteady := by decide
  refine ⟨letters, once, steady, ?_⟩
  exact (draws_recollected_meshes (ofSettings {}) letters () levelsOfShapes [(near, 1)] far 1).2.2
    _ rfl once steady

/-! ### A mesh that is kept although its surroundings have changed -/

/-- The scene of `Group { LOD { range 5 Coordinate3 { point 0 0 0 }
    Coordinate3 { point [ 0 0 0, 1 0 0 ] } } PointSet {} }`. -/
def twoLevels : SceneGraph :=
  { ((((SceneGraph.empty.insert { kind := .coordinate3 #[.zero] }).insert
      { kind := .coordinate3 #[.zero, ⟨1, 0, 0⟩] }).insert
      { kind := .lod { range := [5] }, children := [⟨0⟩, ⟨1⟩] }).insert
      { kind := .pointSet {} }).insert
      { kind := .group .group, children := [⟨2⟩, ⟨3⟩] } with root := some ⟨4⟩ }

/-- The points of the scene are met with the coordinates of the level that is
    shown. -/
theorem mem_visits_twoLevels (host : Host σ) (view : View) (properties : Properties)
    (pass : Pass σ) {level : NodeId} {coordinates : Array Vec3}
    (placed : properties.transform = .identity)
    (shown : active (.lod { range := [5] }) [(⟨0⟩ : NodeId), ⟨1⟩] .identity view.viewer = [level])
    (isLevel : twoLevels.get? level = some { kind := .coordinate3 coordinates }) :
    ⟨⟨3⟩, .pointSet {}, { properties with coordinates }, pass⟩ ∈
      (twoLevels.unfold 6 ⟨4⟩).visits host view (properties, pass) := by
  have lod : twoLevels.get? ⟨2⟩ =
      some { kind := .lod { range := [5] }, children := [⟨0⟩, ⟨1⟩] } := rfl
  have points : twoLevels.get? ⟨3⟩ = some { kind := .pointSet {} } := rfl
  have group : twoLevels.get? ⟨4⟩ =
      some { kind := .group .group, children := [⟨2⟩, ⟨3⟩] } := rfl
  rw [← placed] at shown
  -- the level of detail lets the coordinates of the shown level through
  have behind : (twoLevels.unfold 5 ⟨2⟩).visit host view (properties, pass) =
      ({ properties with coordinates }, pass) := by
    rw [Occurrence.visit_unfold_group lod rfl (properties, pass) rfl shown]
    simp only [List.foldl_cons, List.foldl_nil, Occurrence.visit_unfold_single isLevel rfl]
    rfl
  rw [Occurrence.visits_unfold_group group rfl _ rfl rfl]
  simp only [active, trail, behind, Occurrence.visits_unfold_single points rfl]
  simp

theorem map_vertexCount_points (properties : Properties) (some : properties.coordinates.size ≠ 0)
    (segments : Nat) :
    (tessellate? (.pointSet {}) (properties.context segments)).map Mesh.vertexCount =
      .some properties.coordinates.size := by
  simp [tessellate?, Tessellation.pointSet?, Tessellation.asPosition?, Properties.context,
    Mesh.ofVertices?, some, Mesh.vertexCount]

theorem active_levels_near :
    active (.lod { range := [5] }) [(⟨0⟩ : NodeId), ⟨1⟩] .identity ⟨0, 0, 2⟩ = [⟨0⟩] := by
  decide +kernel

theorem active_levels_far :
    active (.lod { range := [5] }) [(⟨0⟩ : NodeId), ⟨1⟩] .identity ⟨0, 0, 20⟩ = [⟨1⟩] := by
  decide +kernel

theorem shapes_twoLevels : (twoLevels.unfold 6 ⟨4⟩).shapes = [⟨3⟩] := rfl

/-- Seen from near by, the scene shows one point. Seen from afar it would show
    two, but the mesh of the one point is kept. -/
theorem kept_mesh_of_twoLevels :
    let host : Host Unit :=
      { loadTexture := fun _ state => (.error .noRootNode, state)
        rasterize := fun _ state => (none, state) }
    let near : Camera := { Camera.ofSettings {} with position := ⟨0, 0, 2⟩ }
    let far : Camera := { Camera.ofSettings {} with position := ⟨0, 0, 20⟩ }
    let reached := shoot host ⟨twoLevels, near, 1⟩ ((ofSettings {}).clear, ())
    let view := reached.1.view (reached.1.lights twoLevels far) far 1
    (∃ root, twoLevels.unfolding = some root ∧ root.shapes.Nodup) ∧
      ∃ visit ∈ reached.1.visits host reached.2 twoLevels far 1,
        (visit.mesh? host view).map Mesh.vertexCount = some 1 ∧
        (visit.fresh? (fun _ => none) view.segments).map Mesh.vertexCount = some 2 := by
  intro host near far reached view
  have unfolds : twoLevels.unfolding = some (twoLevels.unfold 6 ⟨4⟩) := rfl
  -- the points as they are met in any frame, from a position that shows some level
  have met (renderer : Renderer) (camera : Camera) {level : NodeId} {coordinates : Array Vec3}
      (shown : active (.lod { range := [5] }) [(⟨0⟩ : NodeId), ⟨1⟩] .identity camera.position =
        [level])
      (isLevel : twoLevels.get? level = some { kind := .coordinate3 coordinates }) :
      ⟨⟨3⟩, .pointSet {}, { coordinates }, { caches := renderer.caches, host := () }⟩ ∈
        renderer.visits host () twoLevels camera 1 := by
    rw [visits, unfolds]
    exact mem_visits_twoLevels host _ {} _ rfl shown isLevel
  let first := (ofSettings {}).clear
  obtain ⟨mesh, made, one⟩ := Option.map_eq_some_iff.1
    (map_vertexCount_points { coordinates := #[.zero] } (by decide) first.segments)
  have kept : reached.1.caches.meshes.get? ⟨3⟩ = some mesh := by
    have recorded := Visit.recorded_mesh host (first.view (first.lights twoLevels near) near 1) ⟨3⟩
    have chained := chained_visits host ⟨twoLevels, near, 1⟩ (first, ())
    refine recorded.lasting chained _ (met first near active_levels_near rfl) mesh ?_
    have cold : first.caches.meshes.get? ⟨3⟩ = none := by simp [first, clear, MeshCache.get?]
    simp only [if_true, Visit.mesh?, NodeKind.isShape, Visit.keptOr, cold]
    exact made
  refine ⟨⟨_, unfolds, ?_⟩, _, met reached.1 far active_levels_far rfl, ?_, ?_⟩
  · rw [shapes_twoLevels]
    exact List.nodup_singleton _
  · simp [Visit.mesh?, NodeKind.isShape, Visit.keptOr, kept, one]
  · exact map_vertexCount_points _ (by decide) view.segments

end Renderer

end VrmlWorld
