/-
  VrmlWorld/Proofs/Render/Answers.lean
  ====================================
  **A frame depends on a host by its answers only.**

  Two hosts may remember different things, as long as they answer alike. Then two
  walks through one scene that start with the same caches draw and ask for the
  same, and leave the same caches behind (`Renderer.render_alike`).
-/
import VrmlWorld.Proofs.Render.Memory

namespace VrmlWorld

open VrmlWorld.Geometry

variable {σ τ : Type}

/-- Two hosts that give the same answers in whatever states they are. -/
structure Host.Alike (host : Host σ) (host' : Host τ) : Prop where
  loads : ∀ location state state',
    (host.loadTexture location state).1 = (host'.loadTexture location state').1
  letters : ∀ request state state',
    (host.rasterize request state).1 = (host'.rasterize request state').1

theorem Host.Alike.symm {host : Host σ} {host' : Host τ} (alike : host.Alike host') :
    host'.Alike host where
  loads location state state' := (alike.loads location state' state).symm
  letters request state state' := (alike.letters request state' state).symm

theorem Host.alike_of_by {host : Host σ} {host' : Host τ}
    {textures : Location → Except AssetError TextureHandle}
    {bitmaps : TextRequest → Option TextBitmap} (loads : host.LoadsBy textures)
    (loads' : host'.LoadsBy textures) (letters : host.LettersBy bitmaps)
    (letters' : host'.LettersBy bitmaps) : host.Alike host' where
  loads location state state' := (loads location state).trans (loads' location state').symm
  letters request state state' := (letters request state).trans (letters' request state').symm

namespace TextureCache

variable {host : Host σ} {host' : Host τ}

theorem ask_alike (alike : host.Alike host') (filename : String) (base : Option Location)
    (state : σ) (state' : τ) :
    (ask host filename base state).1 = (ask host' filename base state').1 := by
  rw [ask, ask]
  cases Location.resolve base filename with
  | error error => rfl
  | ok location =>
    have same := alike.loads location state state'
    revert same
    dsimp only
    obtain ⟨outcome, behind⟩ := host.loadTexture location state
    obtain ⟨outcome', behind'⟩ := host'.loadTexture location state'
    intro same
    obtain rfl : outcome = outcome' := same
    cases outcome <;> rfl

theorem load_alike (alike : host.Alike host') (cache : TextureCache) (filename : String)
    (base : Option Location) (state : σ) (state' : τ) :
    (cache.load host filename base state).1 = (cache.load host' filename base state').1 ∧
      (cache.load host filename base state).2.1 = (cache.load host' filename base state').2.1 := by
  rw [load, load]
  split
  · exact ⟨rfl, rfl⟩
  · cases cache.entries[filename]? with
    | some handle => exact ⟨rfl, rfl⟩
    | none =>
      have same := ask_alike alike filename base state state'
      exact ⟨same, by simp only [same]⟩

end TextureCache

namespace Pass

/-- Two passes that differ in the states of their hosts alone. -/
structure Alike (pass : Pass σ) (pass' : Pass τ) : Prop where
  caches : pass.caches = pass'.caches
  frame : pass.frame = pass'.frame

namespace Alike

variable {host : Host σ} {host' : Host τ} {pass : Pass σ} {pass' : Pass τ}

theorem draw (same : pass.Alike pass') (view : View) (properties : Properties) (node : NodeId)
    (mesh : Mesh) (texture : Option BoundTexture) (unlit : Bool) :
    (pass.draw view properties node mesh texture unlit).Alike
      (pass'.draw view properties node mesh texture unlit) := by
  refine ⟨same.caches, ?_⟩
  simp only [Pass.draw, same.frame]

theorem mesh (same : pass.Alike pass') (node : NodeId) (build : Unit → Option Mesh) :
    (pass.mesh node build).1 = (pass'.mesh node build).1 ∧
      (pass.mesh node build).2.Alike (pass'.mesh node build).2 := by
  refine ⟨?_, ?_, same.frame⟩
  · simp only [Pass.mesh, same.caches]
  · simp only [Pass.mesh, same.caches]

theorem bitmap (alike : host.Alike host') (same : pass.Alike pass') (properties : Properties)
    (node : NodeId) (text : AsciiText) :
    (pass.bitmap host properties node text).1 = (pass'.bitmap host' properties node text).1 ∧
      (pass.bitmap host properties node text).2.Alike
        (pass'.bitmap host' properties node text).2 := by
  rw [Pass.bitmap, Pass.bitmap, same.caches]
  cases pass'.caches.texts[node]? with
  | some bitmap => exact ⟨rfl, same⟩
  | none =>
    have answer := alike.letters
      ⟨text.strings, properties.font, text.justification, text.spacing⟩ pass.host pass'.host
    refine ⟨answer, ?_, same.frame⟩
    simp only [answer]

theorem drawShape (same : pass.Alike pass') (view : View) (properties : Properties)
    (node : NodeId) (kind : NodeKind) :
    (pass.drawShape view properties node kind).Alike
      (pass'.drawShape view properties node kind) := by
  obtain ⟨sameMesh, behind⟩ :=
    same.mesh node fun _ => tessellate? kind (properties.context view.segments)
  rw [Pass.drawShape, Pass.drawShape]
  generalize pass.mesh node _ = answer at sameMesh behind
  generalize pass'.mesh node _ = answer' at sameMesh behind
  obtain ⟨mesh, between⟩ := answer
  obtain ⟨mesh', between'⟩ := answer'
  obtain rfl : mesh = mesh' := sameMesh
  cases mesh with
  | none => exact behind
  | some mesh => exact behind.draw ..

theorem drawText (alike : host.Alike host') (same : pass.Alike pass') (view : View)
    (properties : Properties) (node : NodeId) (text : AsciiText) :
    (pass.drawText host view properties node text).Alike
      (pass'.drawText host' view properties node text) := by
  obtain ⟨sameBitmap, behind⟩ := same.bitmap alike properties node text
  rw [Pass.drawText, Pass.drawText]
  generalize pass.bitmap host properties node text = answer at sameBitmap behind
  generalize pass'.bitmap host' properties node text = answer' at sameBitmap behind
  obtain ⟨bitmap, between⟩ := answer
  obtain ⟨bitmap', between'⟩ := answer'
  obtain rfl : bitmap = bitmap' := sameBitmap
  cases bitmap with
  | none => exact behind
  | some bitmap =>
    have quad := Alike.mesh behind node fun _ => Tessellation.textQuad? properties.font
      text.justification text.spacing text.strings.length bitmap.aspect
    obtain ⟨sameMesh, behind⟩ := quad
    dsimp only
    generalize between.mesh node _ = answer at sameMesh behind
    generalize between'.mesh node _ = answer' at sameMesh behind
    obtain ⟨mesh, further⟩ := answer
    obtain ⟨mesh', further'⟩ := answer'
    obtain rfl : mesh = mesh' := sameMesh
    cases mesh with
    | none => exact behind
    | some mesh => exact behind.draw ..

theorem shut (same : pass.Alike pass') (properties : Properties) (node : NodeId)
    (kind : NodeKind) : (pass.shut properties node kind).Alike (pass'.shut properties node kind) := by
  cases kind with
  | inline inline =>
    rw [Pass.shut, Pass.shut]
    split
    · exact ⟨same.caches, by rw [same.frame]⟩
    · exact same
  | _ => exact same

theorem meet (alike : host.Alike host') (same : pass.Alike pass') (view : View)
    (properties : Properties) (node : NodeId) (kind : NodeKind) :
    (pass.meet host view properties node kind).1 =
        (pass'.meet host' view properties node kind).1 ∧
      (pass.meet host view properties node kind).2.Alike
        (pass'.meet host' view properties node kind).2 := by
  cases kind with
  | texture2 texture =>
    obtain ⟨handle, textures⟩ := TextureCache.load_alike alike pass.caches.textures texture.filename
      properties.base pass.host pass'.host
    rw [Pass.meet, Pass.meet, ← same.caches]
    refine ⟨?_, ?_, same.frame⟩
    · simp only [handle]
    · simp only [textures]
  | asciiText text => exact ⟨rfl, same.drawText alike view properties node text⟩
  | cube | sphere | cone | cylinder | indexedFaceSet | indexedLineSet | pointSet =>
    exact ⟨rfl, same.drawShape view properties node _⟩
  | _ => exact ⟨rfl, same⟩

end Alike

end Pass

namespace Renderer

variable {host : Host σ} {host' : Host τ}

theorem render_alike (alike : host.Alike host') (renderer : Renderer) (state : σ) (state' : τ)
    (graph : SceneGraph) (camera : Camera) (aspect : Float32) :
    (renderer.render host state graph camera aspect).1 =
        (renderer.render host' state' graph camera aspect).1 ∧
      (renderer.render host state graph camera aspect).2.1 =
        (renderer.render host' state' graph camera aspect).2.1 := by
  rw [render, render]
  cases graph.unfolding with
  | none => exact ⟨rfl, rfl⟩
  | some root =>
    dsimp only
    generalize renderer.view _ camera aspect = view
    let start : Properties × Pass σ :=
      ({ base := graph.base }, { caches := renderer.caches, host := state })
    let start' : Properties × Pass τ :=
      ({ base := graph.base }, { caches := renderer.caches, host := state' })
    have related : start.2.Alike start'.2 := ⟨rfl, rfl⟩
    have step : ∀ visit ∈ root.visits host view start, ∀ pass' : Pass τ, visit.pass.Alike pass' →
        (visit.behind host view).1 = ((visit.along pass').behind host' view).1 ∧
          (visit.behind host view).2.Alike ((visit.along pass').behind host' view).2 := by
      intro visit _ pass' same
      cases group : visit.kind.isGroup with
      | true =>
        rw [visit.behind_of_group group, (visit.along pass').behind_of_group group]
        exact ⟨rfl, same.shut ..⟩
      | false =>
        rw [visit.behind_of_single group, (visit.along pass').behind_of_single group]
        exact same.meet alike ..
    obtain ⟨⟨-, atEnd⟩, -⟩ : (_ ∧ (root.visit host view start).2.Alike
        (root.visit host' view start').2) ∧ _ :=
      root.visits_related rfl related step
    exact ⟨by rw [atEnd.frame], by rw [atEnd.caches]⟩

end Renderer

end VrmlWorld
