/-
  VrmlWorld/Viewer/InlineLoader.lean
  ==================================
  **Documents of inlines on their way.**

  A request waits until the host answers it, in whatever order the host likes,
  and an answer is kept until it is polled. Requests belong to the scene of
  their time: after a reset they still wait, but their answers are dropped when
  polled.
-/
import VrmlWorld.Document.Assembly
import VrmlWorld.Render.Frame

namespace VrmlWorld

/-- A request on its way, stamped with the scene that it belongs to. -/
structure Fetch where
  request : InlineRequest
  generation : Nat
deriving DecidableEq, Repr

structure FetchResult where
  fetch : Fetch
  outcome : Except AssetError SceneGraph
deriving Repr

/-- Requests on their way, and answers not yet polled. -/
structure InlineLoader where
  generation : Nat := 0
  /-- How many requests of the current scene have not been polled. -/
  inFlight : Nat := 0
  /-- The oldest first. -/
  waiting : List Fetch := []
  /-- The earliest answer first. -/
  finished : List FetchResult := []
deriving Repr

namespace InlineLoader

def request (loader : InlineLoader) (request : InlineRequest) : InlineLoader :=
  { loader with
    inFlight := loader.inFlight + 1
    waiting := loader.waiting ++ [⟨request, loader.generation⟩] }

/-- The scene of a document, which remembers its place, or why there is none. -/
def read (location : Location) (answer : Except AssetError String) :
    Except AssetError SceneGraph := do
  let text ← answer
  match Document.parse? text with
  | some (graph, _) => .ok { graph with base := some location }
  | none => .error .noRootNode

/-- The host answers the request at a position of the waiting list. -/
def complete (loader : InlineLoader) (position : Nat) (answer : Except AssetError String) :
    InlineLoader :=
  match loader.waiting[position]? with
  | none => loader
  | some fetch =>
      { loader with
        waiting := loader.waiting.eraseIdx position
        finished := loader.finished ++ [⟨fetch, read fetch.request.location answer⟩] }

/-- Takes every answer; those of earlier scenes are dropped. -/
def poll (loader : InlineLoader) : List FetchResult × InlineLoader :=
  let current := loader.finished.filter (·.fetch.generation = loader.generation)
  (current,
    { loader with inFlight := loader.inFlight - current.length, finished := [] })

def reset (loader : InlineLoader) : InlineLoader :=
  { loader with generation := loader.generation + 1, inFlight := 0 }

end InlineLoader

end VrmlWorld
