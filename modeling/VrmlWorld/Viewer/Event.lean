/-
  VrmlWorld/Viewer/Event.lean
  ===========================
  **Events: what a session tells its host.**

  Events wait in the order in which they were sent. Dispatching offers each to
  the handlers of its type, in the order of their registration, until one
  consumes it; what no handler consumes stays. Handlers share the state of the
  host, which each may change. An event may be taken when its scene is gone, so
  it names a node by its handle.
-/
import VrmlWorld.Scene.Graph

namespace VrmlWorld

inductive EventType where
  | viewpointsChanged
  | activeViewpointChanged
  | inlineLoaded
  | inlineFailed
deriving DecidableEq, Repr

structure Event where
  type : EventType
  count : Option Nat := none
  index : Option Nat := none
  node : Option Handle := none
  reason : Option String := none
deriving DecidableEq, Repr

namespace Event

def viewpointsChanged (count : Nat) : Event := { type := .viewpointsChanged, count }

def activeViewpointChanged (index : Nat) : Event := { type := .activeViewpointChanged, index }

/-- The document of an inline has become part of the scene. -/
def inlineLoaded (node : Handle) : Event := { type := .inlineLoaded, node }

/-- The document of an inline is not available. -/
def inlineFailed (node : Handle) (reason : String) : Event :=
  { type := .inlineFailed, node, reason }

end Event

/-- A handler with access to a state of type `σ`. The flag says whether it has
    consumed the event. -/
abbrev Handler (σ : Type) : Type := Event → σ → Bool × σ

structure EventSystem (σ : Type) where
  queue : List Event := []
  /-- In the order of registration, each with the type that it handles. -/
  handlers : List (EventType × Handler σ) := []

namespace EventSystem

variable {σ : Type}

/-- The handlers of a type, in the order of their registration. -/
def handlersOf (events : EventSystem σ) (type : EventType) : List (Handler σ) :=
  (events.handlers.filter (·.1 = type)).map (·.2)

def register (events : EventSystem σ) (type : EventType) (handler : Handler σ) : EventSystem σ :=
  { events with handlers := events.handlers ++ [(type, handler)] }

def send (events : EventSystem σ) (event : Event) : EventSystem σ :=
  { events with queue := events.queue ++ [event] }

def offer (event : Event) : List (Handler σ) → σ → Bool × σ
  | [], state => (false, state)
  | handler :: others, state =>
      match handler event state with
      | (true, state) => (true, state)
      | (false, state) => offer event others state

/-- Offers some events, one after the other; those that nobody consumes are
    left, in order. -/
def offerAll (events : EventSystem σ) : List Event → σ → List Event × σ
  | [], state => ([], state)
  | event :: others, state =>
      let (consumed, state) := offer event (events.handlersOf event.type) state
      let (left, state) := offerAll events others state
      (if consumed then left else event :: left, state)

def dispatch (events : EventSystem σ) (state : σ) : EventSystem σ × σ :=
  let (queue, state) := events.offerAll events.queue state
  ({ events with queue }, state)

def drain (events : EventSystem σ) : List Event × EventSystem σ :=
  (events.queue, { events with queue := [] })

def clear (events : EventSystem σ) : EventSystem σ := { events with queue := [] }

end EventSystem

end VrmlWorld
