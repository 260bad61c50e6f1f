/-
  VrmlWorld/Proofs/Render/Repeats.lean
  ====================================
  **Frames of a scene that does not change.**

  The first frame is drawn with empty caches and all later ones with what it has
  left. Nothing that it has drawn is lost, and from the second frame on nothing
  changes any more. The second frame may show more than the first: a shape of
  which nothing was left to draw where it was first met, but something at a later
  occurrence, has a mesh by then, and that mesh is drawn at all its occurrences.
-/
import VrmlWorld.Proofs.Render.Memory

namespace VrmlWorld

open VrmlWorld.Geometry

/-! ### What caches know -/

namespace Caches

/-- Caches with the same contents. How often a mesh had to be made does not
    count. -/
structure Same (caches other : Caches) : Prop where
  meshes : ∀ node, caches.meshes.get? node = other.meshes.get? node
  texts : ∀ node : NodeId, caches.texts[node]? = other.texts[node]?
  textures : ∀ name : String, caches.textures.entries[name]? = other.textures.entries[name]?

theorem Same.refl (caches : Caches) : caches.Same caches :=
  ⟨fun _ => rfl, fun _ => rfl, fun _ => rfl⟩

/-- Caches that hold what some visits of one scene have found, and no other
    meshes. -/
structure Knows {σ : Type} (caches : Caches) (host : Host σ) (view : View)
    (visits : List (Visit σ)) : Prop where
  kinds : ∀ visit ∈ visits, ∀ other ∈ visits, visit.node = other.node → visit.kind = other.kind
  meshes : ∀ visit ∈ visits, ∀ mesh, visit.mesh? host view = some mesh →
    caches.meshes.get? visit.node = some mesh
  texts : ∀ visit ∈ visits, ∀ bitmap, visit.lettered? host = some bitmap →
    caches.texts[visit.node]? = some bitmap
  textures : ∀ visit ∈ visits, ∀ name, visit.image? = some name →
    caches.textures.entries[name]? = some (visit.texture? host name)
  first : ∀ node, caches.meshes.get? node =
    visits.findSome? fun visit => if node = visit.node then visit.mesh? host view else none

end Caches

namespace Visit

variable {σ : Type} {host : Host σ} {view : View}

/-- Behind a chain that began with empty caches they know its visits. -/
theorem Chained.knows {last : Caches} {visits : List (Visit σ)}
    (chained : Chained host view.segments {} visits last)
    (kinds : ∀ visit ∈ visits, ∀ other ∈ visits, visit.node = other.node → visit.kind = other.kind) :
    last.Knows host view visits := by
  refine ⟨kinds, ?_, ?_, ?_, ?_⟩
  · intro visit member found isFound
    exact (recorded_mesh host view visit.node).lasting chained visit member found (by simpa)
  · intro visit member found isFound
    exact (recorded_bitmap host _ visit.node).lasting chained visit member found (by simpa)
  · intro visit member name isImage
    exact (recorded_texture host _ name).lasting chained visit member _ (by simp [isImage])
  · intro node
    simpa [MeshCache.get?] using (recorded_mesh host view node).first chained

end Visit

/-! ### A visit with caches that know it -/

def Frame.AsksAlike (frame other : Frame) : Prop :=
  frame.pending = other.pending ∧ frame.unresolved = other.unresolved

theorem Frame.AsksAlike.request {frame other : Frame} (alike : frame.AsksAlike other)
    (node : NodeId) (url : String) (base : Option Location) :
    (frame.request node url base).AsksAlike (other.request node url base) := by
  obtain ⟨pending, unresolved⟩ := alike
  simp only [Frame.request, pending, unresolved]
  split
  · exact ⟨pending, unresolved⟩
  · cases Location.resolve base url with
    | ok location => exact ⟨rfl, rfl⟩
    | error error => exact ⟨rfl, rfl⟩

theorem Frame.asksAlike_add (frame : Frame) (draw : Option Draw) :
    (frame.add draw).AsksAlike frame := by
  cases draw <;> exact ⟨rfl, rfl⟩

namespace Visit

variable {σ : Type}

theorem draw?_along {host : Host σ} {view : View} {visit : Visit σ} {pass : Pass σ}
    (lettered : (visit.along pass).lettered? host = visit.lettered? host)
    (mesh : (visit.along pass).mesh? host view = visit.mesh? host view) :
    (visit.along pass).draw? host view = visit.draw? host view := by
  obtain ⟨node, kind, properties, earlier⟩ := visit
  cases kind with
  | asciiText text =>
    simp only [lettered?, along, Option.some.injEq] at lettered mesh
    simp only [draw?, along, lettered, mesh]
  | _ =>
    simp only [along] at mesh
    simp only [draw?, along, mesh]

theorem making?_along {host : Host σ} {visit : Visit σ} {pass : Pass σ}
    (lettered : (visit.along pass).lettered? host = visit.lettered? host) (view : View) :
    (visit.along pass).making? host view = visit.making? host view := by
  obtain ⟨node, kind, properties, earlier⟩ := visit
  cases kind with
  | asciiText text =>
    simp only [lettered?, along, Option.some.injEq] at lettered
    simp only [making?, along, lettered]
  | _ => rfl

theorem isSome_draw? (visit : Visit σ) (host : Host σ) (view : View) :
    (visit.draw? host view).isSome = (visit.mesh? host view).isSome := by
  simpa using congrArg Option.isSome (visit.map_draw? host view)

theorem asksAlike_behind (visit : Visit σ) (host : Host σ) (view : View) {pass : Pass σ}
    (alike : visit.pass.frame.AsksAlike pass.frame) :
    (visit.behind host view).2.frame.AsksAlike ((visit.along pass).behind host view).2.frame := by
  cases group : visit.kind.isGroup with
  | true =>
    have again : (visit.along pass).kind.isGroup = true := group
    rw [behind_of_group group, behind_of_group again]
    cases kind : visit.kind with
    | inline inline =>
      simp only [Pass.shut, along_kind, kind]
      split
      · exact alike.request visit.node inline.url visit.properties.base
      · exact alike
    | _ =>
      simp only [Pass.shut, along_kind, kind]
      exact alike
  | false =>
    have again : (visit.along pass).kind.isGroup = false := group
    rw [behind_of_single group, behind_of_single again, Pass.frame_meet, Pass.frame_meet]
    have first := visit.pass.frame.asksAlike_add
      (Visit.draw? ⟨visit.node, visit.kind, visit.properties, visit.pass⟩ host view)
    have second := pass.frame.asksAlike_add
      (Visit.draw? ⟨visit.node, visit.kind, visit.properties, pass⟩ host view)
    exact ⟨first.1.trans (alike.1.trans second.1.symm), first.2.trans (alike.2.trans second.2.symm)⟩

end Visit

namespace Caches.Knows

variable {σ : Type} {host : Host σ} {view : View} {visits : List (Visit σ)} {caches : Caches}
  {visit : Visit σ} {pass : Pass σ}

theorem lettered?_along (knows : caches.Knows host view visits) (member : visit ∈ visits)
    (same : pass.caches.Same caches) :
    (visit.along pass).lettered? host = visit.lettered? host := by
  have known := knows.texts visit member
  obtain ⟨node, kind, properties, earlier⟩ := visit
  cases kind with
  | asciiText text =>
    simp only [Visit.lettered?, Option.some.injEq, forall_eq'] at known
    simp only [Visit.lettered?, Visit.along]
    rw [Visit.bitmap?, same.texts, known, Option.getD_some]
  | _ => rfl

theorem lettered?_eq (knows : caches.Knows host view visits) {other : Visit σ}
    (member : visit ∈ visits) (among : other ∈ visits) (sameNode : visit.node = other.node) :
    visit.lettered? host = other.lettered? host := by
  have first := knows.texts visit member
  have second := knows.texts other among
  have sameKind := knows.kinds visit member other among sameNode
  rw [← sameNode] at second
  cases kind : visit.kind with
  | asciiText text =>
    simp only [Visit.lettered?, kind, ← sameKind, Option.some.injEq, forall_eq'] at first second ⊢
    exact Option.some.inj (first.symm.trans second)
  | _ => simp [Visit.lettered?, kind, ← sameKind]

/-- Met again, a node has the mesh that is known for it, wherever it has been
    made. -/
theorem mesh?_along (knows : caches.Knows host view visits) (member : visit ∈ visits)
    (same : pass.caches.Same caches) :
    (visit.along pass).mesh? host view = caches.meshes.get? visit.node := by
  have lettered := knows.lettered?_along member same
  have kept := same.meshes visit.node
  have sameMaking : (visit.along pass).making? host view = visit.making? host view :=
    Visit.making?_along lettered view
  rw [Visit.mesh?_eq_bind, sameMaking]
  cases known : caches.meshes.get? visit.node with
  | some mesh =>
    -- some visit of the node has found the mesh, so this one can make one as well
    obtain ⟨other, among, isFound⟩ := List.exists_of_findSome?_eq_some (knows.first _ ▸ known)
    split at isFound
    · rename_i sameNode
      rw [Visit.mesh?_eq_bind] at isFound
      obtain ⟨made, making, -⟩ := Option.bind_eq_some_iff.1 isFound
      have able : (visit.making? host view).isSome := by
        rw [visit.isSome_making?, knows.kinds visit member other among sameNode,
          knows.lettered?_eq member among sameNode, ← other.isSome_making? host view, making]
        rfl
      obtain ⟨made, making⟩ := Option.isSome_iff_exists.1 able
      simp [making, Visit.keptOr, kept, known]
    · cases isFound
  | none =>
    have nothing : visit.mesh? host view = none := by
      cases found : visit.mesh? host view with
      | none => rfl
      | some mesh =>
        rw [knows.meshes visit member mesh found] at known
        cases known
    rw [Visit.mesh?_eq_bind] at nothing
    cases making : visit.making? host view with
    | none => rfl
    | some made =>
      rw [making, Option.bind_some, Visit.keptOr] at nothing
      have unmade : made = none := by
        cases visit.pass.caches.meshes.get? visit.node <;> simp_all
      simp [Visit.keptOr, kept, known, unmade]

theorem draw?_along_of_drawn (knows : caches.Knows host view visits) (member : visit ∈ visits)
    (same : pass.caches.Same caches) {draw : Draw} (isDrawn : visit.draw? host view = some draw) :
    (visit.along pass).draw? host view = some draw := by
  have able : (visit.mesh? host view).isSome := by
    rw [← visit.isSome_draw?, isDrawn]
    rfl
  obtain ⟨mesh, found⟩ := Option.isSome_iff_exists.1 able
  have sameMesh : (visit.along pass).mesh? host view = visit.mesh? host view := by
    rw [knows.mesh?_along member same, knows.meshes visit member mesh found, found]
  rw [visit.draw?_along (knows.lettered?_along member same) sameMesh, isDrawn]

/-- Nothing is added to caches that know a visit. -/
theorem same_behind (knows : caches.Knows host view visits) (member : visit ∈ visits)
    (same : pass.caches.Same caches) :
    ((visit.along pass).behind host view).2.caches.Same caches := by
  refine ⟨?_, ?_, ?_⟩
  · intro node
    rw [Visit.get?_meshes_behind, knows.mesh?_along member same, Visit.along_pass,
      same.meshes, Visit.along_node]
    by_cases here : node = visit.node
    · simp [here]
    · simp [here]
  · intro node
    rw [Visit.getElem?_texts_behind, knows.lettered?_along member same, Visit.along_pass,
      same.texts, Visit.along_node]
    by_cases here : node = visit.node
    · cases found : visit.lettered? host with
      | none => simp
      | some bitmap => simp [here, knows.texts visit member bitmap found]
    · simp [here]
  · intro name
    rw [Visit.getElem?_textures_behind, Visit.along_pass, same.textures]
    by_cases here : visit.image? = some name
    · simp [knows.textures visit member name here]
    · have elsewhere : (visit.along pass).image? ≠ some name := here
      simp [elsewhere]

theorem properties_behind (knows : caches.Knows host view visits) (member : visit ∈ visits)
    (same : pass.caches.Same caches) :
    (visit.behind host view).1 = ((visit.along pass).behind host view).1 := by
  have textures := knows.textures visit member
  obtain ⟨node, kind, properties, earlier⟩ := visit
  cases kind with
  | texture2 texture =>
    simp only [Visit.behind, Visit.along, NodeKind.isGroup, Pass.meet, Bool.false_eq_true, if_false,
      TextureCache.load_fst, same.textures]
    by_cases unnamed : texture.filename.isEmpty
    · simp [unnamed]
    · have known := textures texture.filename (by simp [Visit.image?, unnamed])
      simp [unnamed, known, Visit.texture?]
  | _ => simp [Visit.behind, Visit.along, NodeKind.isGroup, Pass.meet, NodeKind.isShape]

/-- Whichever walk meets it again, a node is drawn alike. -/
theorem draw?_along_eq (knows : caches.Knows host view visits) (member : visit ∈ visits)
    {other : Pass σ} (same : pass.caches.Same caches) (sameOther : other.caches.Same caches) :
    (visit.along pass).draw? host view = (visit.along other).draw? host view := by
  have lettered := (knows.lettered?_along member same).trans
    (knows.lettered?_along member sameOther).symm
  have mesh := (knows.mesh?_along member same).trans (knows.mesh?_along member sameOther).symm
  exact (visit.along other).draw?_along lettered mesh

/-- A second walk, whose caches know the first one, makes nothing, asks for the
    same, and draws alike at each visit of the first. -/
theorem walk_again {root : Occurrence} {properties : Properties} {first second : Pass σ}
    (knows : caches.Knows host view (root.visits host view (properties, first)))
    (same : second.caches.Same caches) (alike : first.frame.AsksAlike second.frame) :
    let again := (root.visit host view (properties, second)).2
    again.caches.Same caches ∧
      (root.visit host view (properties, first)).2.frame.AsksAlike again.frame ∧
      ∀ settled : Pass σ, settled.caches.Same caches →
        (root.visits host view (properties, second)).filterMap (·.draw? host view) =
          (root.visits host view (properties, first)).filterMap fun visit =>
            (visit.along settled).draw? host view := by
  let Along (pass pass' : Pass σ) : Prop :=
    pass'.caches.Same caches ∧ pass.frame.AsksAlike pass'.frame
  have sameProperties : (properties, first).1 = (properties, second).1 := rfl
  obtain ⟨⟨-, atEnd⟩, visits⟩ := root.visits_related (R := Along) sameProperties ⟨same, alike⟩
    fun visit member pass' along =>
      ⟨knows.properties_behind member along.1, knows.same_behind member along.1,
        visit.asksAlike_behind host view along.2⟩
  refine ⟨atEnd.1, atEnd.2, ?_⟩
  intro settled sameSettled
  symm
  refine filterMap_eq_of_forall₂ visits ?_
  rintro visit member visit' ⟨met, sameMet, -⟩
  rw [met]
  exact knows.draw?_along_eq member sameSettled sameMet

end Caches.Knows

/-! ### The same frame again -/

/-- Where members keep their counterparts and others gain one, nothing is lost,
    and nothing is gained unless some member gains one. -/
theorem filterMap_of_gain {α β : Type} {f g : α → Option β} {members : List α}
    (gain : ∀ a ∈ members, ∀ b, f a = some b → g a = some b) :
    (members.filterMap f).Sublist (members.filterMap g) ∧
      (members.filterMap f = members.filterMap g ↔
        ∀ a ∈ members, (g a).isSome → (f a).isSome) := by
  induction members with
  | nil => simp
  | cons a others ih =>
    obtain ⟨kept, same⟩ := ih fun a member => gain a (List.mem_cons_of_mem _ member)
    have here := gain a (List.mem_cons_self ..)
    rw [List.forall_mem_cons, ← same]
    cases first : f a with
    | some b =>
      simp [first, here b first, kept]
    | none =>
      cases second : g a with
      | none => simp [first, second, kept]
      | some b =>
        have longer : others.filterMap f ≠ b :: others.filterMap g := by
          intro equal
          have shorter := kept.length_le
          rw [equal, List.length_cons] at shorter
          omega
        simp [first, second, kept.cons b, longer]

namespace Renderer

variable {σ : Type}

/-- A renderer with the settings of another one, and with some caches. -/
structure Ready (reached renderer : Renderer) (caches : Caches) : Prop where
  segments : reached.segments = renderer.segments
  pointSize : reached.pointSize = renderer.pointSize
  headlight : reached.headlight = renderer.headlight
  caches : reached.caches.Same caches

theorem ready_shoot (renderer : Renderer) (host : Host σ) (state : σ) (shot : Shot) :
    (shoot host shot (renderer, state)).1.Ready renderer
      (shoot host shot (renderer, state)).1.caches := by
  rw [shoot, render]
  cases shot.graph.unfolding <;> exact ⟨rfl, rfl, rfl, .refl _⟩

/-- The frame that is drawn with the mesh of each node that any visit of it has
    found. -/
def settledFrame (renderer : Renderer) (host : Host σ) (state : σ) (shot : Shot) : Frame :=
  let first := renderer.render host state shot.graph shot.camera shot.aspect
  let view := renderer.view (renderer.lights shot.graph shot.camera) shot.camera shot.aspect
  let visits := renderer.visits host state shot.graph shot.camera shot.aspect
  let settled : Pass σ := { caches := first.2.1.caches, host := first.2.2 }
  { first.1 with
    draws := (visits.filterMap fun visit => (visit.along settled).draw? host view).toArray }

theorem knows_visits {renderer : Renderer} (cold : renderer.caches = {}) (host : Host σ) (state : σ)
    (shot : Shot) :
    (shoot host shot (renderer, state)).1.caches.Knows host
      (renderer.view (renderer.lights shot.graph shot.camera) shot.camera shot.aspect)
      (renderer.visits host state shot.graph shot.camera shot.aspect) := by
  have chained := chained_visits host shot (renderer, state)
  simp only [cold] at chained
  refine Visit.Chained.knows chained ?_
  intro visit member other among sameNode
  have here := kind?_of_mem_visits member
  rw [sameNode, kind?_of_mem_visits among] at here
  exact (Option.some.inj here).symm

/-- A renderer that has all that the first frame has made draws the settled
    frame, and makes nothing more. -/
theorem render_of_ready {renderer : Renderer} {host : Host σ} {state : σ} {shot : Shot}
    (cold : renderer.caches = {}) {reached : Renderer × σ}
    (ready : reached.1.Ready renderer (shoot host shot (renderer, state)).1.caches) :
    (reached.1.render host reached.2 shot.graph shot.camera shot.aspect).1 =
        renderer.settledFrame host state shot ∧
      (shoot host shot reached).1.Ready renderer (shoot host shot (renderer, state)).1.caches := by
  obtain ⟨segments, pointSize, headlight, same⟩ := ready
  have lights : reached.1.lights shot.graph shot.camera = renderer.lights shot.graph shot.camera := by
    simp only [Renderer.lights, headlight]
  have sameView : reached.1.view (reached.1.lights shot.graph shot.camera) shot.camera shot.aspect =
      renderer.view (renderer.lights shot.graph shot.camera) shot.camera shot.aspect := by
    simp only [Renderer.view, lights, segments, pointSize]
  cases unfolds : shot.graph.unfolding with
  | none =>
    simp only [shoot, settledFrame, render, visits, unfolds] at same ⊢
    exact ⟨rfl, segments, pointSize, headlight, same⟩
  | some root =>
    have drawn := reached.1.draws_render host reached.2 shot.graph shot.camera shot.aspect
    have knows := knows_visits cold host state shot
    simp only [shoot, settledFrame, render, visits, unfolds, sameView, Option.elim_some]
      at same drawn knows ⊢
    generalize renderer.view _ _ _ = view at same drawn knows ⊢
    let second : Pass σ := { caches := reached.1.caches, host := reached.2 }
    have sameSecond : second.caches.Same _ := same
    obtain ⟨sameAgain, asks, met⟩ := knows.walk_again sameSecond ⟨rfl, rfl⟩
    refine ⟨?_, segments, pointSize, headlight, sameAgain⟩
    rw [Frame.mk.injEq]
    refine ⟨?_, lights, asks.1.symm, asks.2.symm⟩
    exact Array.toList_inj.1 (drawn.trans (met { caches := _, host := _ } (.refl _)))

theorem film_of_ready {renderer : Renderer} {host : Host σ} {state : σ} {shot : Shot}
    (cold : renderer.caches = {}) (n : Nat) {reached : Renderer × σ}
    (ready : reached.1.Ready renderer (shoot host shot (renderer, state)).1.caches) :
    film host (List.replicate n shot) reached =
      List.replicate n (renderer.settledFrame host state shot) := by
  induction n generalizing reached with
  | zero => rfl
  | succ n ih =>
    obtain ⟨drawn, readyAgain⟩ := render_of_ready cold ready
    have further := ih readyAgain
    rw [film] at further ⊢
    rw [List.replicate_succ, trail, further, drawn, List.replicate_succ]
    rfl

/-- The frames of a scene that does not change, with one renderer that has made
    nothing before:

    * from the second frame on all are the same;
    * what the first one shows is shown by all later ones as well, in the same
      order, and they show nothing else exactly when no node has a mesh at one
      occurrence of the first frame and none at another;
    * the later frames show at each occurrence the mesh that has first been made
      for its node;
    * lights and requests are the same in all of them. -/
theorem film_of_unchanged_scene (renderer : Renderer) (host : Host σ) (state : σ) (shot : Shot) :
    let cold := renderer.clear
    let visits := cold.visits host state shot.graph shot.camera shot.aspect
    let view := cold.view (cold.lights shot.graph shot.camera) shot.camera shot.aspect
    let first := (cold.render host state shot.graph shot.camera shot.aspect).1
    ∃ draws : Array Draw,
      (∀ n, film host (List.replicate (n + 1) shot) (cold, state) =
        first :: List.replicate n { first with draws }) ∧
      first.draws.toList.Sublist draws.toList ∧
      (first.draws = draws ↔
        ∀ visit ∈ visits, ∀ other ∈ visits, visit.node = other.node →
          (other.mesh? host view).isSome → (visit.mesh? host view).isSome) ∧
      draws.toList.map (fun draw => (draw.node, draw.model, draw.mesh)) =
        visits.filterMap fun visit =>
          (visits.findSome? fun other =>
            if visit.node = other.node then other.mesh? host view else none).map fun mesh =>
              (visit.node, visit.properties.transform, mesh) := by
  intro cold visits view first
  have knows := knows_visits (rfl : cold.caches = {}) host state shot
  have drawn := cold.draws_render host state shot.graph shot.camera shot.aspect
  let settled : Pass σ :=
    { caches := (shoot host shot (cold, state)).1.caches, host := (shoot host shot (cold, state)).2 }
  have later : (cold.settledFrame host state shot).draws.toList =
      visits.filterMap fun visit => (visit.along settled).draw? host view :=
    List.toList_toArray
  have gain : ∀ visit ∈ visits, ∀ draw, visit.draw? host view = some draw →
      (visit.along settled).draw? host view = some draw := by
    intro visit member draw isDrawn
    exact knows.draw?_along_of_drawn member (.refl _) isDrawn
  have mesh : ∀ visit ∈ visits, (visit.along settled).mesh? host view =
      visits.findSome? fun other =>
        if visit.node = other.node then other.mesh? host view else none := by
    intro visit member
    rw [knows.mesh?_along member (.refl _), knows.first]
  obtain ⟨kept, same⟩ := filterMap_of_gain gain
  refine ⟨(cold.settledFrame host state shot).draws, ?_, ?_, ?_, ?_⟩
  · intro n
    have rest := film_of_ready (rfl : cold.caches = {}) n (cold.ready_shoot host state shot)
    rw [film] at rest ⊢
    rw [List.replicate_succ, trail, rest]
    rfl
  · rw [drawn, later]
    exact kept
  · rw [← Array.toList_inj, drawn, later]
    refine same.trans (forall₂_congr fun visit member => ?_)
    rw [Visit.isSome_draw?, Visit.isSome_draw?, mesh visit member, List.isSome_findSome?,
      List.any_eq_true]
    constructor
    · intro gained other among sameNode able
      exact gained ⟨other, among, by simpa [sameNode] using able⟩
    · rintro gained ⟨other, among, able⟩
      split at able
      · rename_i sameNode
        exact gained other among sameNode able
      · cases able
  · rw [later]
    simp only [List.map_filterMap, Visit.map_draw?]
    refine List.filterMap_congr fun visit member => ?_
    rw [mesh visit member]
    rfl

/-! ### A shape that comes to be shown -/

/-- The scene of `Group { DEF P PointSet {} Coordinate3 { point 0 0 0 } USE P }`. -/
def pointsTwice : SceneGraph :=
  { ((SceneGraph.empty.insert { name := some "P", kind := .pointSet {} }).insert
      { kind := .coordinate3 #[.zero] }).insert
      { kind := .group .group, children := [⟨0⟩, ⟨1⟩, ⟨0⟩] } with root := some ⟨2⟩ }

/-- The points are drawn once with a renderer that has no mesh for them, and
    twice with one that has; in any case there is one afterwards. -/
theorem render_pointsTwice (renderer : Renderer) (host : Host σ) (state : σ) (camera : Camera)
    (aspect : Float32) :
    let answer := renderer.render host state pointsTwice camera aspect
    answer.1.draws.toList.map (·.node) =
        (if (renderer.caches.meshes.get? ⟨0⟩).isSome then [⟨0⟩, ⟨0⟩] else [⟨0⟩]) ∧
      (answer.2.1.caches.meshes.get? ⟨0⟩).isSome := by
  intro answer
  have unfolds : pointsTwice.unfolding = some (pointsTwice.unfold 4 ⟨2⟩) := rfl
  have points : pointsTwice.get? ⟨0⟩ = some { name := some "P", kind := .pointSet {} } := rfl
  have coordinates : pointsTwice.get? ⟨1⟩ = some { kind := .coordinate3 #[.zero] } := rfl
  have group : pointsTwice.get? ⟨2⟩ =
      some { kind := .group .group, children := [⟨0⟩, ⟨1⟩, ⟨0⟩] } := rfl
  simp only [answer, render, unfolds]
  generalize renderer.view _ _ _ = view
  rw [Occurrence.visit_unfold_group group rfl _ rfl rfl]
  simp only [active, List.foldl_cons, List.foldl_nil, Occurrence.visit_unfold_single points rfl,
    Occurrence.visit_unfold_single coordinates rfl]
  -- nothing can be made of the points in front of the coordinates, one point behind them
  have before : tessellate? (.pointSet {})
      ({ base := pointsTwice.base : Properties }.context view.segments) = none := by
    simp [tessellate?, Tessellation.pointSet?, Tessellation.asPosition?, Properties.context,
      Mesh.ofVertices?]
  have behind : (tessellate? (.pointSet {})
      ({ base := pointsTwice.base, coordinates := #[.zero] : Properties }.context
        view.segments)).isSome := by
    simp [tessellate?, Tessellation.pointSet?, Tessellation.asPosition?, Properties.context,
      Mesh.ofVertices?]
  obtain ⟨mesh, made⟩ := Option.isSome_iff_exists.1 behind
  simp only [Pass.meet, NodeKind.isShape, Properties.after, Pass.drawShape, Pass.mesh, if_true,
    MeshCache.getOrBuild, MeshCache.get?, before, Bool.false_eq_true, if_false]
  obtain kept | ⟨other, kept⟩ :=
    (renderer.caches.meshes.meshes[(⟨0⟩ : NodeId)]?).eq_none_or_eq_some
  · simp [Pass.draw, View.draw, kept, made]
  · simp [Pass.draw, View.draw, kept]

theorem film_pointsTwice :
    let host : Host Unit :=
      { loadTexture := fun _ state => (.error .noRootNode, state)
        rasterize := fun _ state => (none, state) }
    let shot : Shot := { graph := pointsTwice, camera := .ofSettings {}, aspect := 1 }
    (film host [shot, shot] ((ofSettings {}).clear, ())).map
        (fun frame => frame.draws.toList.map (·.node)) =
      [[⟨0⟩], [⟨0⟩, ⟨0⟩]] := by
  intro host shot
  obtain ⟨first, made⟩ := render_pointsTwice (ofSettings {}).clear host () shot.camera shot.aspect
  have cold : ((ofSettings {}).clear.caches.meshes.get? ⟨0⟩).isSome = false := by
    simp [clear, MeshCache.get?]
  simp only [film, trail, shoot, shot, List.append_nil, List.singleton_append, List.map_cons,
    List.map_nil]
  generalize (ofSettings {}).clear.render host () pointsTwice (.ofSettings {}) 1 = warm
    at first made ⊢
  obtain ⟨second, -⟩ := render_pointsTwice warm.2.1 host warm.2.2 (.ofSettings {}) 1
  rw [first, second, cold, if_pos made]
  rfl

end Renderer

end VrmlWorld
