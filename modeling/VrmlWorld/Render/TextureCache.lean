/-
  VrmlWorld/Render/TextureCache.lean
  ==================================
  **Textures by the file name that a scene gives.**

  The host is asked once for each name. A name that could not be loaded is
  remembered as well and not tried again.
-/
import Std.Data.HashMap
import VrmlWorld.Host

namespace VrmlWorld

/-- The textures asked for so far, failures among them. -/
structure TextureCache where
  entries : Std.HashMap String (Option TextureHandle) := {}

namespace TextureCache

def size (cache : TextureCache) : Nat := cache.entries.size

/-- What the host gives for a name in a document from `base`. -/
def ask {σ : Type} (host : Host σ) (filename : String) (base : Option Location) (state : σ) :
    Option TextureHandle × σ :=
  match Location.resolve base filename with
  | .error _ => (none, state)
  | .ok location =>
      match host.loadTexture location state with
      | (.ok handle, state) => (some handle, state)
      | (.error _, state) => (none, state)

/-- The texture of a name, asked for on its first use; an empty name has none. -/
def load {σ : Type} (cache : TextureCache) (host : Host σ) (filename : String)
    (base : Option Location) (state : σ) : Option TextureHandle × TextureCache × σ :=
  if filename.isEmpty then (none, cache, state)
  else
    match cache.entries[filename]? with
    | some handle => (handle, cache, state)
    | none =>
        let (handle, state) := ask host filename base state
        (handle, ⟨cache.entries.insert filename handle⟩, state)

end TextureCache

end VrmlWorld
