/-
  VrmlWorld/Inspector/Inspection.lean
  ===================================
  **Looking at a scene from the command line.**

  The document is loaded, and frames are made until no document of an inline is
  on its way. Then the link under a place of the screen is named, if one is
  asked for. Settings come first: where they fail, no document is read.
-/
import VrmlWorld.Inspector.Arguments
import VrmlWorld.Inspector.LocalFile
import VrmlWorld.Inspector.TextEstimate
import VrmlWorld.Viewer.Session

namespace VrmlWorld.Inspector

open VrmlWorld.Geometry Number

/-- A host without a screen, which counts the texts it has estimated. What is on
    an image does not change what is under a place of the screen, so no image is
    loaded. -/
def host : Host Nat where
  loadTexture location count := (.error (.unsupported location.text), count)
  rasterize := TextEstimate.rasterize

/-- After how many frames documents are waited for no longer, which matters for
    a document that holds itself. -/
def frameLimit : Nat := 1000

variable {m : Type → Type} [Monad m]

def answerAll (read : String → m (Except FileProblem String)) (session : Session Nat) :
    m (Session Nat) :=
  session.loader.waiting.foldlM
    (fun session fetch => do
      let answer ← LocalFile.fetch read fetch.request.location
      pure (session.complete 0 answer))
    session

def settle (read : String → m (Except FileProblem String)) (viewport : Vec2) :
    Nat → Session Nat → m (Session Nat)
  | 0, session => pure session
  | frames + 1, session => do
      let (frame, session) := session.frame viewport
      if session.pendingInlines = 0 && frame.pending.isEmpty then pure session
      else settle read viewport frames (← answerAll read session)

def describe (session : Session Nat) (place viewport : Vec2) : String :=
  match session.pick place viewport with
  | some hit =>
      match hit.anchor with
      | some link => link.target
      | none => "no link"
  | none => "nothing under (" ++ singleText place.x ++ ", " ++ singleText place.y ++ ")"

/-- The line that answers the arguments of a command line, if there is anything
    to say. -/
def inspect (read : String → m (Except FileProblem String)) (arguments : List String) :
    ExceptT Failure m (Option String) := do
  let arguments ← ofExcept (Arguments.ofList arguments)
  let some document := arguments.document | throw .usage
  let settings ← match arguments.settings with
    | none => pure {}
    | some path => do
        let content ← read path
        ofExcept ((Settings.load path content).mapError .settings)
  let location := Location.parse document
  let answer ← ExceptT.lift (LocalFile.fetch read location)
  let session ← ofExcept
    (((Session.start settings host 0).loadLocation location answer).mapError .asset)
  let session ← ExceptT.lift (settle read arguments.viewport frameLimit session)
  pure (arguments.pick.map fun place => describe session place arguments.viewport)

structure Outcome where
  exitCode : UInt8
  output : String
  errors : String
deriving DecidableEq, Repr

/-- The outcome of an inspection: an answer is a line of the output, a failure
    is a line of the errors. -/
def Outcome.ofExcept : Except Failure (Option String) → Outcome
  | .ok none => ⟨0, "", ""⟩
  | .ok (some line) => ⟨0, line ++ "\n", ""⟩
  | .error failure => ⟨1, "", failure.message ++ "\n"⟩

end VrmlWorld.Inspector
