/-
  VrmlWorld/Proofs/Viewer/Offers.lean
  ===================================
  **Whom a dispatch asks about which event.**

  Handlers are arbitrary functions with a state, so what a dispatch does with them
  can only be told from their calls. A handler that notes its calls answers as it
  would without the notes, and changes the state in the same way. So a dispatch to
  noting handlers goes as it would have gone anyway, and leaves a list of all calls
  behind (`EventSystem.dispatch_noting`). By this list each waiting event has been
  offered once, in the order of the queue, to the handlers of its type, in the order
  of their registration, up to the first that consumed it.
-/
import VrmlWorld.Viewer.Event

namespace VrmlWorld

/-! ### Notes -/

/-- One call of a handler. -/
structure Call where
  /-- The place of the handler in the order of registration. -/
  handler : Nat
  event : Event
  consumed : Bool
deriving DecidableEq, Repr

variable {σ : Type}

/-- A handler at a place that notes its calls behind all earlier notes. -/
def Handler.noting (handler : Handler σ) (place : Nat) : Handler (σ × List Call) :=
  fun event (state, calls) =>
    let (consumed, state) := handler event state
    (consumed, state, calls ++ [⟨place, event, consumed⟩])

/-- The calls about one event, when handlers stand at some places and one of them
    consumes it or none does. -/
inductive Offered (event : Event) (places : List Nat) : Bool → List Call → Prop where
  | refused : Offered event places false (places.map (⟨·, event, false⟩))
  | consumed {before after : List Nat} {place : Nat} (split : places = before ++ place :: after) :
      Offered event places true (before.map (⟨·, event, false⟩) ++ [⟨place, event, true⟩])

/-- What a dispatch makes of a queue: the events that are left, and the calls. -/
inductive Dispatched (places : EventType → List Nat) :
    List Event → List Event → List Call → Prop where
  | nil : Dispatched places [] [] []
  | kept {event : Event} {queue left : List Event} {about others : List Call}
      (offered : Offered event (places event.type) false about)
      (rest : Dispatched places queue left others) :
      Dispatched places (event :: queue) (event :: left) (about ++ others)
  | taken {event : Event} {queue left : List Event} {about others : List Call}
      (offered : Offered event (places event.type) true about)
      (rest : Dispatched places queue left others) :
      Dispatched places (event :: queue) left (about ++ others)

theorem Offered.cons_refused {event : Event} {places : List Nat} {consumed : Bool}
    {calls : List Call} (offered : Offered event places consumed calls) (place : Nat) :
    Offered event (place :: places) consumed (⟨place, event, false⟩ :: calls) := by
  cases offered with
  | refused => exact @Offered.refused event (place :: places)
  | consumed split =>
    rw [split, ← List.cons_append, ← List.cons_append]
    exact .consumed rfl

namespace EventSystem

/-- The event system with handlers that note their calls. -/
def noting (events : EventSystem σ) : EventSystem (σ × List Call) where
  queue := events.queue
  handlers := events.handlers.zipIdx.map fun ((type, handler), place) =>
    (type, handler.noting place)

/-- The handlers of a type with their places, in the order of registration. -/
def placed (events : EventSystem σ) (type : EventType) : List (Handler σ × Nat) :=
  (events.handlers.zipIdx.filter (·.1.1 = type)).map fun ((_, handler), place) => (handler, place)

def placesOf (events : EventSystem σ) (type : EventType) : List Nat :=
  (events.placed type).map (·.2)

theorem handlersOf_eq (events : EventSystem σ) (type : EventType) :
    events.handlersOf type = (events.placed type).map (·.1) := by
  have all : events.handlers = events.handlers.zipIdx.map (·.1) := by simp
  rw [handlersOf, all, List.filter_map, placed]
  simp [Function.comp_def]

theorem handlersOf_noting (events : EventSystem σ) (type : EventType) :
    events.noting.handlersOf type =
      (events.placed type).map fun (handler, place) => handler.noting place := by
  rw [handlersOf, noting, List.filter_map, placed]
  simp [Function.comp_def]

/-! ### Offers -/

/-- Handlers that note their calls agree with the handlers that they are made from
    on whether an event is consumed and on the state. -/
theorem offer_noting (event : Event) (members : List (Handler σ × Nat)) (state : σ)
    (earlier : List Call) :
    let plain := offer event (members.map (·.1)) state
    ∃ calls, Offered event (members.map (·.2)) plain.1 calls ∧
      offer event (members.map fun (handler, place) => handler.noting place) (state, earlier) =
        (plain.1, plain.2, earlier ++ calls) := by
  induction members generalizing state earlier with
  | nil => exact ⟨[], .refused, by simp [offer]⟩
  | cons first others ih =>
    obtain ⟨handler, place⟩ := first
    simp only [List.map_cons, offer, Handler.noting]
    rcases handler event state with ⟨_ | _, next⟩
    · obtain ⟨calls, offered, same⟩ := ih next (earlier ++ [⟨place, event, false⟩])
      exact ⟨⟨place, event, false⟩ :: calls, offered.cons_refused place, by simp [same]⟩
    · have first : place :: others.map (·.2) = [] ++ place :: others.map (·.2) := rfl
      exact ⟨[⟨place, event, true⟩], .consumed first, rfl⟩

theorem offerAll_noting (events : EventSystem σ) (queue : List Event) (state : σ)
    (earlier : List Call) :
    let plain := events.offerAll queue state
    ∃ calls, Dispatched events.placesOf queue plain.1 calls ∧
      events.noting.offerAll queue (state, earlier) = (plain.1, plain.2, earlier ++ calls) := by
  induction queue generalizing state earlier with
  | nil => exact ⟨[], .nil, by simp [offerAll]⟩
  | cons event queue ih =>
    have first := offer_noting event (events.placed event.type) state earlier
    rw [← handlersOf_eq, ← handlersOf_noting] at first
    simp only [offerAll]
    generalize offer event (events.handlersOf event.type) state = plain at first ⊢
    obtain ⟨consumed, between⟩ := plain
    obtain ⟨about, offered, same⟩ := first
    obtain ⟨others, rest, same'⟩ := ih between (earlier ++ about)
    refine ⟨about ++ others, ?_, ?_⟩
    · cases consumed with
      | false => exact .kept offered rest
      | true => exact .taken offered rest
    · simp [same, same']

/-- A dispatch to handlers that note their calls goes as the dispatch itself, and the
    calls are noted. -/
theorem dispatch_noting (events : EventSystem σ) (state : σ) (earlier : List Call) :
    let plain := events.dispatch state
    ∃ calls, Dispatched events.placesOf events.queue plain.1.queue calls ∧
      events.noting.dispatch (state, earlier) =
        (plain.1.noting, plain.2, earlier ++ calls) := by
  obtain ⟨calls, dispatched, same⟩ := events.offerAll_noting events.queue state earlier
  refine ⟨calls, dispatched, ?_⟩
  have queue : events.noting.queue = events.queue := rfl
  rw [dispatch, queue, same]
  rfl

end EventSystem

end VrmlWorld
