/-
  VrmlWorld/Host.lean
  ===================
  **What the interpreter asks of its host while it draws.**

  A host turns the location of an image into a texture, and lines of text into
  a textured bitmap. It may remember what it was asked, so each answer comes
  with the state of the host behind it.
-/
import VrmlWorld.Scene.Node

namespace VrmlWorld

open VrmlWorld.Geometry

/-- A text to be made into a bitmap. -/
structure TextRequest where
  lines : List String
  font : FontStyle
  justification : Justification
  spacing : Float32
deriving DecidableEq, Repr

structure TextBitmap where
  texture : TextureHandle
  /-- How many times as wide as high it is. -/
  aspect : Float32
deriving DecidableEq, Repr

/-- A host whose state is of type `σ`. -/
structure Host (σ : Type) where
  loadTexture : Location → σ → Except AssetError TextureHandle × σ
  rasterize : TextRequest → σ → Option TextBitmap × σ

end VrmlWorld
