/-
  VrmlWorld/Render/Frame.lean
  ===========================
  **One frame of a scene.**

  Drawing walks through the occurrences of a scene with the properties that
  each inherits. Shapes become draws; inlines that are still to come are listed
  with their locations, once each. What the walk changes beside the properties
  (caches, the host, the frame itself) goes along as a `Pass`.
-/
import VrmlWorld.Render.Light
import VrmlWorld.Render.MeshCache
import VrmlWorld.Render.Properties
import VrmlWorld.Render.TextureCache
import VrmlWorld.Render.Uniform
import VrmlWorld.Tessellation.Shape
import VrmlWorld.Viewer.Camera

namespace VrmlWorld

open VrmlWorld.Geometry

/-! ### What a frame holds -/

structure Draw where
  node : NodeId
  mesh : Mesh
  model : Mat4
  surface : Surface
  uniforms : UniformBlock
  texture : Option BoundTexture
  /-- Whether light is of no account. -/
  unlit : Bool
deriving Repr

/-- An inline whose document is to be fetched. -/
structure InlineRequest where
  node : NodeId
  location : Location
deriving DecidableEq, Repr

/-- What one frame shows and asks for. -/
structure Frame where
  /-- The shapes in document order. -/
  draws : Array Draw := #[]
  lights : List Light := []
  /-- The inlines met before their documents were asked for. -/
  pending : Array InlineRequest := #[]
  /-- The inlines among them whose reference leads nowhere. -/
  unresolved : Array NodeId := #[]
deriving Repr

namespace Frame

/-- Lists an inline, once. -/
def request (frame : Frame) (node : NodeId) (url : String) (base : Option Location) : Frame :=
  if frame.pending.any (·.node == node) || frame.unresolved.contains node then frame
  else
    match Location.resolve base url with
    | .ok location => { frame with pending := frame.pending.push ⟨node, location⟩ }
    | .error _ => { frame with unresolved := frame.unresolved.push node }

end Frame

/-! ### What stays over frames -/

/-- What has been made for the nodes of a scene so far. -/
structure Caches where
  meshes : MeshCache := {}
  textures : TextureCache := {}
  /-- The bitmap of each text, failures among them. -/
  texts : Std.HashMap NodeId (Option TextBitmap) := {}

/-- Draws scenes, and keeps what it has made for them. -/
structure Renderer where
  segments : Nat
  pointSize : Float32
  headlight : Bool
  caches : Caches := {}

namespace Renderer

/-- A renderer for some settings, with nothing made yet. -/
def ofSettings (settings : Settings) : Renderer where
  segments := settings.segments
  pointSize := settings.pointSize
  headlight := settings.headlight

def clear (renderer : Renderer) : Renderer := { renderer with caches := {} }

end Renderer

/-! ### The walk -/

/-- What is the same for all draws of a frame. -/
structure View where
  view : Mat4
  projection : Mat4
  viewer : Vec3
  lightCount : Nat
  segments : Nat
  pointSize : Float32

def View.draw (view : View) (properties : Properties) (node : NodeId) (mesh : Mesh)
    (texture : Option BoundTexture) (unlit : Bool) : Draw :=
  let modelView := view.view * properties.transform
  { node, mesh, texture, unlit
    model := properties.transform
    surface := properties.surface
    uniforms :=
      { projection := view.projection
        modelView
        normalMatrix := (normalMatrix modelView).padded
        textureTransform := properties.textureTransform
        material := properties.surface.block
        lightCount := min view.lightCount greatestCount
        hasTexture := texture.isSome
        pointSize := view.pointSize
        isUnlit := unlit } }

/-- What the walk changes beside the properties. -/
structure Pass (σ : Type) where
  caches : Caches
  host : σ
  frame : Frame := {}

namespace Pass

variable {σ : Type}

def draw (pass : Pass σ) (view : View) (properties : Properties) (node : NodeId) (mesh : Mesh)
    (texture : Option BoundTexture) (unlit : Bool) : Pass σ :=
  { pass with
    frame.draws := pass.frame.draws.push (view.draw properties node mesh texture unlit) }

/-- The mesh of a node, from the cache or made now. -/
def mesh (pass : Pass σ) (node : NodeId) (build : Unit → Option Mesh) : Option Mesh × Pass σ :=
  let (mesh, meshes) := pass.caches.meshes.getOrBuild node build
  (mesh, { pass with caches.meshes := meshes })

/-- Draws a shape other than a text. Only triangles are lit. -/
def drawShape (pass : Pass σ) (view : View) (properties : Properties) (node : NodeId)
    (kind : NodeKind) : Pass σ :=
  match pass.mesh node fun _ => tessellate? kind (properties.context view.segments) with
  | (none, pass) => pass
  | (some mesh, pass) =>
      pass.draw view properties node mesh properties.texture (mesh.topology != .triangles)

/-- The bitmap of a text, made by the host on its first use. -/
def bitmap (pass : Pass σ) (host : Host σ) (properties : Properties) (node : NodeId)
    (text : AsciiText) : Option TextBitmap × Pass σ :=
  match pass.caches.texts[node]? with
  | some bitmap => (bitmap, pass)
  | none =>
      let (bitmap, state) := host.rasterize
        ⟨text.strings, properties.font, text.justification, text.spacing⟩ pass.host
      (bitmap,
        { pass with host := state, caches.texts := pass.caches.texts.insert node bitmap })

/-- Draws a text: a quad with the bitmap of its lines. -/
def drawText (pass : Pass σ) (host : Host σ) (view : View) (properties : Properties)
    (node : NodeId) (text : AsciiText) : Pass σ :=
  match pass.bitmap host properties node text with
  | (none, pass) => pass
  | (some bitmap, pass) =>
      let quad (_ : Unit) : Option Mesh := Tessellation.textQuad? properties.font
        text.justification text.spacing text.strings.length bitmap.aspect
      match pass.mesh node quad with
      | (none, pass) => pass
      | (some mesh, pass) =>
          pass.draw view properties node mesh (some ⟨bitmap.texture, .clamped, .clamped⟩) true

/-- Passes a node that is no group. -/
def meet (pass : Pass σ) (host : Host σ) (view : View) (properties : Properties) (node : NodeId)
    (kind : NodeKind) : Properties × Pass σ :=
  match kind with
  | .texture2 texture =>
      let (handle, textures, state) :=
        pass.caches.textures.load host texture.filename properties.base pass.host
      ({ properties with
          texture := handle.map fun handle => ⟨handle, texture.wrapS, texture.wrapT⟩ },
        { pass with host := state, caches.textures := textures })
  | .asciiText text => (properties, pass.drawText host view properties node text)
  | _ =>
      if kind.isShape then (properties, pass.drawShape view properties node kind)
      else (properties.after kind, pass)

end Pass

/-- What holds inside a group, if the walk goes in. An inline is shut before it
    is loaded; afterwards its document is the place that references start
    from. -/
def Properties.entering? (properties : Properties) : NodeKind → Option Properties
  | .inline inline =>
      if inline.status = .loaded then
        some { properties with base := inline.location <|> properties.base }
      else none
  | _ => some properties

/-- Lists an inline whose document is still to be asked for. -/
def Pass.shut {σ : Type} (pass : Pass σ) (properties : Properties) (node : NodeId) :
    NodeKind → Pass σ
  | .inline inline =>
      if inline.status = .pending then
        { pass with frame := pass.frame.request node inline.url properties.base }
      else pass
  | _ => pass

/-- Walks through an occurrence. The result is what holds for the next
    sibling, and what the walk has changed. -/
def Occurrence.visit {σ : Type} (host : Host σ) (view : View) :
    Occurrence → Properties × Pass σ → Properties × Pass σ
  | .absent _, (properties, pass) => (properties, pass)
  | .node id kind arity child, (properties, pass) =>
      if kind.isGroup then
        match properties.entering? kind with
        | none => (properties, pass.shut properties id kind)
        | some inner =>
            let (left, pass) := (shown kind arity properties.transform view.viewer).foldl
              (fun state position => visit host view (child position) state) (inner, pass)
            (properties.leaving kind left, pass)
      else pass.meet host view properties id kind

/-- The lights of a frame: those of the scene, or else the headlight. -/
def Renderer.lights (renderer : Renderer) (graph : SceneGraph) (camera : Camera) : List Light :=
  let lights := graph.lights camera.position
  if lights.isEmpty && renderer.headlight then [Light.headlight camera.forward] else lights

/-- What is the same for all draws of a camera's picture with some lights. -/
def Renderer.view (renderer : Renderer) (lights : List Light) (camera : Camera)
    (aspect : Float32) : View where
  view := camera.view
  projection := camera.projectionMatrix aspect
  viewer := camera.position
  lightCount := lights.length
  segments := renderer.segments
  pointSize := renderer.pointSize

/-- Draws a scene as a camera sees it, in a picture `aspect` times as wide as
    high. An empty scene gives an empty frame. -/
def Renderer.render {σ : Type} (renderer : Renderer) (host : Host σ) (state : σ)
    (graph : SceneGraph) (camera : Camera) (aspect : Float32) : Frame × Renderer × σ :=
  match graph.unfolding with
  | none => ({}, renderer, state)
  | some root =>
      let lights := renderer.lights graph camera
      let (_, pass) := root.visit host (renderer.view lights camera aspect)
        ({ base := graph.base }, { caches := renderer.caches, host := state })
      ({ pass.frame with lights }, { renderer with caches := pass.caches }, pass.host)

end VrmlWorld
