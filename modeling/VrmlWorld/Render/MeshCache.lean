/-
  VrmlWorld/Render/MeshCache.lean
  ===============================
  **Meshes by the node that they show.**

  A shape is tessellated when it is first met and drawn from the cache
  afterwards. A shape of which nothing is left to draw is not remembered: it is
  tried again, because its surroundings may have changed.
-/
import Std.Data.HashMap
import VrmlWorld.Render.Mesh
import VrmlWorld.Scene.Graph

namespace VrmlWorld

structure MeshCache where
  meshes : Std.HashMap NodeId Mesh := {}
  /-- How many times a mesh had to be made, or tried. -/
  misses : Nat := 0

namespace MeshCache

def size (cache : MeshCache) : Nat := cache.meshes.size

/-- The mesh of a node, if it is there. -/
def get? (cache : MeshCache) (node : NodeId) : Option Mesh := cache.meshes[node]?

/-- The mesh of a node, made on its first use. -/
def getOrBuild (cache : MeshCache) (node : NodeId) (build : Unit → Option Mesh) :
    Option Mesh × MeshCache :=
  match cache.get? node with
  | some mesh => (some mesh, cache)
  | none =>
      match build () with
      | some mesh => (some mesh, ⟨cache.meshes.insert node mesh, cache.misses + 1⟩)
      | none => (none, { cache with misses := cache.misses + 1 })

end MeshCache

end VrmlWorld
