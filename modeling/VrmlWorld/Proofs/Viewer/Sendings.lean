/-
  VrmlWorld/Proofs/Viewer/Sendings.lean
  =====================================
  **What becomes of every event that is sent.**

  A host sends events, registers handlers, dispatches and drains, in any order and as
  often as it likes. Two events may be equal, so it is their sendings that are kept
  apart. Each sending has one fate: its event is still waiting, or has been consumed in
  some call of a handler, or has been taken by some drain. The queue, the calls and the
  drains hold exactly the events of the sendings with that fate, in the order in which
  they were sent (`Accounts`), and only those that wait have their fate still before
  them (`Follows`).

  One call that consumes settles one sending (`Accounts.consumed`); dispatches and
  whole runs are made of such steps. Whom a dispatch calls is told by the operations
  before it: its handlers are their registrations, in order (`Run.handlers_of`).
-/
import Mathlib.Data.List.Induction
import VrmlWorld.Proofs.Viewer.Offers

namespace VrmlWorld

/-! ### Sendings and their fates -/

/-- What has become of an event. Calls and drains are told by their positions among
    all that there have been. -/
inductive Fate where
  | waiting
  | consumed (call : Nat)
  | drained (drain : Nat)
deriving DecidableEq, Repr

structure Sending where
  event : Event
  fate : Fate
deriving DecidableEq, Repr

/-- The events with a fate, in the order in which they were sent. -/
def withFate (fate : Fate) (sendings : List Sending) : List Event :=
  (sendings.filter (·.fate = fate)).map (·.event)

/-- The sendings at a later time: fates are settled once and for all. -/
def Follows (earlier later : List Sending) : Prop :=
  ∀ (position : Nat) (sending : Sending), earlier[position]? = some sending →
    sending.fate ≠ .waiting → later[position]? = some sending

/-- What has gone into an event system and what has come out, the earliest first. -/
structure History where
  sent : List Event := []
  calls : List Call := []
  drained : List (List Event) := []

/-- The event that a call has consumed, if it has consumed any. -/
def consumedIn (calls : List Call) (position : Nat) : List Event :=
  ((calls[position]?.filter (·.consumed)).map (·.event)).toList

/-- The events that are found where a fate leads to, with those in the queue given. -/
def History.found (history : History) (queue : List Event) : Fate → List Event
  | .waiting => queue
  | .consumed call => consumedIn history.calls call
  | .drained drain => history.drained[drain]?.getD []

/-- The sendings account for all events that were sent and for all that are found. -/
structure Accounts (sendings : List Sending) (history : History) (queue : List Event) : Prop where
  sent : sendings.map (·.event) = history.sent
  found : ∀ fate, withFate fate sendings = history.found queue fate

theorem withFate_append (fate : Fate) (sendings others : List Sending) :
    withFate fate (sendings ++ others) = withFate fate sendings ++ withFate fate others := by
  simp [withFate]

theorem withFate_cons (fate : Fate) (sending : Sending) (others : List Sending) :
    withFate fate (sending :: others) =
      if sending.fate = fate then sending.event :: withFate fate others
      else withFate fate others := by
  by_cases same : sending.fate = fate <;> simp [withFate, same]

/-- The sending behind a drain that takes all events that wait. -/
def Sending.takenBy (sending : Sending) (drain : Nat) : Sending :=
  if sending.fate = .waiting then { sending with fate := .drained drain } else sending

theorem withFate_takenBy {sendings : List Sending} {drain : Nat}
    (fresh : withFate (.drained drain) sendings = []) (fate : Fate) :
    withFate fate (sendings.map (·.takenBy drain)) =
      if fate = .waiting then []
      else if fate = .drained drain then withFate .waiting sendings
      else withFate fate sendings := by
  induction sendings with
  | nil => simp [withFate]
  | cons first others ih =>
    obtain ⟨event, before⟩ := first
    rw [withFate_cons] at fresh
    split at fresh
    · cases fresh
    · rename_i undrained
      rw [List.map_cons, withFate_cons, withFate_cons, withFate_cons, ih fresh, Sending.takenBy]
      by_cases waits : fate = .waiting
      · subst waits
        cases before <;> simp
      · by_cases taken : fate = .drained drain
        · subst taken
          cases before <;> simp_all
        · cases before <;> simp [waits, taken, Ne.symm waits, Ne.symm taken]

/-- The sending whose event is behind some others in the queue is behind as many that
    wait. -/
theorem exists_waiting {sendings : List Sending} {left queue : List Event} {event : Event}
    (waiting : withFate .waiting sendings = left ++ event :: queue) :
    ∃ before after, sendings = before ++ ⟨event, .waiting⟩ :: after ∧
      withFate .waiting before = left ∧ withFate .waiting after = queue := by
  obtain ⟨front, rest, split, isLeft, isRest⟩ := List.map_eq_append_iff.1 waiting
  obtain ⟨first, others, rfl, isEvent, isQueue⟩ := List.map_eq_cons_iff.1 isRest
  obtain ⟨before, behind, rfl, isFront, isOthers⟩ := List.filter_eq_append_iff.1 split
  obtain ⟨settled, after, rfl, others_settled, isWaiting, isAfter⟩ :=
    List.filter_eq_cons_iff.1 isOthers
  obtain rfl : first = ⟨event, .waiting⟩ := by
    rw [← isEvent, ← of_decide_eq_true isWaiting]
  have silent : withFate .waiting settled = [] :=
    List.map_eq_nil_iff.2 (List.filter_eq_nil_iff.2 others_settled)
  refine ⟨before ++ settled, after, by simp, ?_, ?_⟩
  · rw [withFate_append, silent, List.append_nil, withFate, isFront, isLeft]
  · rw [withFate, isAfter, isQueue]

namespace Follows

variable {earlier between later : List Sending}

theorem refl (sendings : List Sending) : Follows sendings sendings :=
  fun _ _ found _ => found

theorem trans (first : Follows earlier between) (second : Follows between later) :
    Follows earlier later :=
  fun position sending found settled =>
    second position sending (first position sending found settled) settled

theorem append (sendings new : List Sending) : Follows sendings (sendings ++ new) := by
  intro position sending found _
  obtain ⟨within, -⟩ := List.getElem?_eq_some_iff.1 found
  rw [List.getElem?_append_left within, found]

theorem settle (before after : List Sending) (event : Event) (fate : Fate) :
    Follows (before ++ ⟨event, .waiting⟩ :: after) (before ++ ⟨event, fate⟩ :: after) := by
  intro position sending found settled
  by_cases front : position < before.length
  · rw [List.getElem?_append_left front] at found ⊢
    exact found
  · rw [List.getElem?_append_right (Nat.le_of_not_lt front)] at found ⊢
    cases behind : position - before.length with
    | zero =>
      rw [behind] at found
      cases found
      exact absurd rfl settled
    | succ further =>
      rw [behind] at found
      exact found

end Follows

/-! ### Calls -/

theorem consumedIn_of_le {calls : List Call} {position : Nat} (behind : calls.length ≤ position) :
    consumedIn calls position = [] := by
  rw [consumedIn, List.getElem?_eq_none behind]
  rfl

/-- Calls that consume nothing may be added. -/
theorem consumedIn_append (calls : List Call) {refused : List Call}
    (unconsumed : ∀ call ∈ refused, call.consumed = false) (position : Nat) :
    consumedIn (calls ++ refused) position = consumedIn calls position := by
  by_cases within : position < calls.length
  · rw [consumedIn, List.getElem?_append_left within, consumedIn]
  · have behind := Nat.le_of_not_lt within
    rw [consumedIn_of_le behind, consumedIn, List.getElem?_append_right behind]
    cases found : refused[position - calls.length]? with
    | none => rfl
    | some call => simp [Option.filter, unconsumed call (List.mem_of_getElem? found)]

theorem consumedIn_concat (calls : List Call) (handler : Nat) (event : Event) (position : Nat) :
    consumedIn (calls ++ [⟨handler, event, true⟩]) position =
      if calls.length = position then [event] else consumedIn calls position := by
  by_cases last : calls.length = position
  · subst last
    rw [if_pos rfl, consumedIn, List.getElem?_concat_length]
    rfl
  · rw [if_neg last]
    by_cases within : position < calls.length
    · rw [consumedIn, List.getElem?_append_left within, consumedIn]
    · rw [consumedIn_of_le (Nat.le_of_not_lt within), consumedIn_of_le]
      rw [List.length_append, List.length_singleton]
      omega

/-! ### One step after another -/

namespace Accounts

variable {sendings : List Sending} {history : History} {queue left : List Event} {event : Event}
  {places : EventType → List Nat} {calls : List Call}

theorem nil : Accounts [] {} [] where
  sent := rfl
  found fate := by cases fate <;> rfl

theorem send (accounts : Accounts sendings history queue) (event : Event) :
    Accounts (sendings ++ [⟨event, .waiting⟩]) { history with sent := history.sent ++ [event] }
      (queue ++ [event]) where
  sent := by simp [accounts.sent]
  found fate := by
    rw [withFate_append, accounts.found]
    cases fate <;> simp [withFate, History.found]

theorem refused (accounts : Accounts sendings history queue)
    (unconsumed : ∀ call ∈ calls, call.consumed = false) :
    Accounts sendings { history with calls := history.calls ++ calls } queue where
  sent := accounts.sent
  found fate := by
    rw [accounts.found]
    cases fate with
    | consumed call => exact (consumedIn_append history.calls unconsumed call).symm
    | _ => rfl

/-- A call that consumes a waiting event settles one sending of it. -/
theorem consumed (accounts : Accounts sendings history (left ++ event :: queue)) (handler : Nat) :
    ∃ settled, Follows sendings settled ∧
      Accounts settled { history with calls := history.calls ++ [⟨handler, event, true⟩] }
        (left ++ queue) := by
  obtain ⟨before, after, rfl, isLeft, isQueue⟩ := exists_waiting (accounts.found .waiting)
  refine ⟨before ++ ⟨event, .consumed history.calls.length⟩ :: after,
    .settle before after event _, ?_, ?_⟩
  · simpa using accounts.sent
  · intro fate
    have found := accounts.found fate
    rw [withFate_append, withFate_cons] at found ⊢
    cases fate with
    | waiting => simp [History.found, isLeft, isQueue]
    | drained drain => simpa [History.found] using found
    | consumed call =>
      simp only [History.found, reduceCtorEq, if_false, consumedIn_concat, Fate.consumed.injEq]
        at found ⊢
      split
      · rename_i last
        -- no earlier call has this position
        rw [consumedIn_of_le (Nat.le_of_eq last), List.append_eq_nil_iff] at found
        simp [found.1, found.2]
      · exact found

theorem offered (accounts : Accounts sendings history (left ++ event :: queue)) {here : List Nat}
    {taken : Bool} (offered : Offered event here taken calls) :
    ∃ settled, Follows sendings settled ∧
      Accounts settled { history with calls := history.calls ++ calls }
        (left ++ if taken then queue else event :: queue) := by
  have unconsumed (members : List Nat) :
      ∀ call ∈ members.map (⟨·, event, false⟩), Call.consumed call = false := by simp
  cases offered with
  | refused => exact ⟨sendings, .refl sendings, accounts.refused (unconsumed here)⟩
  | @consumed before after place split =>
    obtain ⟨settled, follows, accounts⟩ :=
      (accounts.refused (unconsumed before)).consumed place
    rw [List.append_assoc] at accounts
    exact ⟨settled, follows, accounts⟩

/-- The induction is on the offers; `left` are the events that have been offered and
    are left. -/
theorem dispatched {remaining : List Event} (dispatched : Dispatched places queue remaining calls)
    (accounts : Accounts sendings history (left ++ queue)) :
    ∃ settled, Follows sendings settled ∧
      Accounts settled { history with calls := history.calls ++ calls } (left ++ remaining) := by
  induction dispatched generalizing sendings history left with
  | nil => exact ⟨sendings, .refl sendings, accounts.refused (by simp)⟩
  | @kept event queue remaining about others offered rest ih =>
    obtain ⟨between, follows, accounts⟩ := accounts.offered offered
    change Accounts between _ (left ++ event :: queue) at accounts
    rw [List.append_cons] at accounts
    obtain ⟨settled, follows', accounts⟩ := ih accounts
    refine ⟨settled, follows.trans follows', ?_⟩
    simpa using accounts
  | taken offered rest ih =>
    obtain ⟨between, follows, accounts⟩ := accounts.offered offered
    obtain ⟨settled, follows', accounts⟩ := ih accounts
    refine ⟨settled, follows.trans follows', ?_⟩
    simpa using accounts

theorem drain (accounts : Accounts sendings history queue) :
    ∃ settled, Follows sendings settled ∧
      Accounts settled { history with drained := history.drained ++ [queue] } [] := by
  have fresh : withFate (.drained history.drained.length) sendings = [] := by
    simp [accounts.found, History.found]
  refine ⟨sendings.map (·.takenBy history.drained.length), ?_, ?_, ?_⟩
  · intro position sending found settled
    rw [List.getElem?_map, found, Option.map_some, Sending.takenBy, if_neg settled]
  · rw [← accounts.sent, List.map_map]
    refine List.map_congr_left fun sending _ => ?_
    rw [Function.comp_apply, Sending.takenBy]
    split <;> rfl
  · intro fate
    rw [withFate_takenBy fresh, accounts.found, accounts.found]
    cases fate with
    | waiting => rfl
    | consumed call => rfl
    | drained drain =>
      simp only [reduceCtorEq, if_false, History.found, Fate.drained.injEq]
      split
      · rename_i last
        simp [last]
      · rename_i other
        rw [List.getElem?_append]
        split
        · rfl
        · rename_i behind
          rw [List.getElem?_eq_none (Nat.le_of_not_lt behind), List.getElem?_eq_none]
          rw [List.length_singleton]
          omega

end Accounts

/-! ### Runs -/

namespace EventSystem

variable {σ : Type}

/-- What a host does with an event system. -/
inductive Operation (σ : Type) where
  | send (event : Event)
  | register (type : EventType) (handler : Handler σ)
  | dispatch
  | drain

def Operation.sent? : Operation σ → Option Event
  | .send event => some event
  | _ => none

def Operation.registered? : Operation σ → Option (EventType × Handler σ)
  | .register type handler => some (type, handler)
  | _ => none

/-- An event system and the state of its handlers, with what has happened so far. -/
structure Run (σ : Type) where
  events : EventSystem σ := {}
  state : σ
  history : History := {}

namespace Run

/-- One operation more. The calls of a dispatch are those that it makes to handlers
    that note them. -/
def step (run : Run σ) : Operation σ → Run σ
  | .send event =>
      { run with
        events := run.events.send event
        history.sent := run.history.sent ++ [event] }
  | .register type handler => { run with events := run.events.register type handler }
  | .dispatch =>
      let next := run.events.dispatch run.state
      { events := next.1
        state := next.2
        history :=
          { run.history with
            calls := (run.events.noting.dispatch (run.state, run.history.calls)).2.2 } }
  | .drain =>
      let taken := run.events.drain
      { run with events := taken.2, history.drained := run.history.drained ++ [taken.1] }

/-- Some operations, from an event system without events and handlers on. -/
def of (state : σ) (operations : List (Operation σ)) : Run σ := operations.foldl step { state }

theorem of_concat (state : σ) (operations : List (Operation σ)) (operation : Operation σ) :
    of state (operations ++ [operation]) = (of state operations).step operation := by
  rw [of, List.foldl_append]
  rfl

theorem sent_of (state : σ) (operations : List (Operation σ)) :
    (of state operations).history.sent = operations.filterMap (·.sent?) := by
  induction operations using List.reverseRecOn with
  | nil => rfl
  | append_singleton operations operation ih =>
    rw [of_concat, List.filterMap_append, ← ih]
    cases operation with
    | send event => rfl
    | _ => exact (List.append_nil _).symm

/-- The handlers are those that have been registered, the earliest first. -/
theorem handlers_of (state : σ) (operations : List (Operation σ)) :
    (of state operations).events.handlers = operations.filterMap (·.registered?) := by
  induction operations using List.reverseRecOn with
  | nil => rfl
  | append_singleton operations operation ih =>
    rw [of_concat, List.filterMap_append, ← ih]
    cases operation with
    | register type handler => rfl
    | _ => exact (List.append_nil _).symm

/-- A dispatch changes nothing but the queue and the state, and adds its calls. -/
theorem step_dispatch (run : Run σ) :
    let next := run.step .dispatch
    ∃ calls, Dispatched run.events.placesOf run.events.queue next.events.queue calls ∧
      next.history = { run.history with calls := run.history.calls ++ calls } ∧
      run.events.noting.dispatch (run.state, run.history.calls) =
        (next.events.noting, next.state, next.history.calls) := by
  obtain ⟨calls, dispatched, noted⟩ := run.events.dispatch_noting run.state run.history.calls
  refine ⟨calls, dispatched, ?_, ?_⟩
  · rw [step, noted]
  · rw [step, noted]

theorem accounts_step {run : Run σ} {sendings : List Sending}
    (accounts : Accounts sendings run.history run.events.queue) (operation : Operation σ) :
    ∃ settled, Follows sendings settled ∧
      Accounts settled (run.step operation).history (run.step operation).events.queue := by
  cases operation with
  | send event => exact ⟨_, .append sendings [⟨event, .waiting⟩], accounts.send event⟩
  | register type handler => exact ⟨sendings, .refl sendings, accounts⟩
  | dispatch =>
    obtain ⟨calls, dispatched, history, -⟩ := run.step_dispatch
    rw [history]
    rw [← List.nil_append run.events.queue] at accounts
    exact accounts.dispatched dispatched
  | drain => exact accounts.drain

/-- There is an account for each time of a run, and each follows the one before. -/
theorem exists_accounts (state : σ) (operations : List (Operation σ)) :
    ∃ sendings : Nat → List Sending,
      (∀ time,
        let run := of state (operations.take time)
        Accounts (sendings time) run.history run.events.queue) ∧
      ∀ time, Follows (sendings time) (sendings (time + 1)) := by
  induction operations using List.reverseRecOn with
  | nil =>
    refine ⟨fun _ => [], ?_, fun _ => .refl []⟩
    intro time
    rw [List.take_nil]
    exact .nil
  | append_singleton operations operation ih =>
    obtain ⟨sendings, accounts, follows⟩ := ih
    have last := accounts operations.length
    rw [List.take_length] at last
    obtain ⟨settled, after, accounts'⟩ := accounts_step last operation
    rw [← of_concat] at accounts'
    refine ⟨fun time => if time ≤ operations.length then sendings time else settled, ?_, ?_⟩
    · intro time
      by_cases earlier : time ≤ operations.length
      · simp only [if_pos earlier]
        rw [List.take_append_of_le_length earlier]
        exact accounts time
      · have whole : (operations ++ [operation]).length ≤ time := by
          rw [List.length_append, List.length_singleton]
          omega
        simp only [if_neg earlier]
        rwa [List.take_of_length_le whole]
    · intro time
      dsimp only
      rcases Nat.lt_trichotomy time operations.length with before | rfl | behind
      · rw [if_pos (Nat.le_of_lt before), if_pos (Nat.succ_le_of_lt before)]
        exact follows time
      · rw [if_pos (Nat.le_refl _), if_neg (Nat.not_succ_le_self _)]
        exact after
      · rw [if_neg (Nat.not_le_of_lt behind), if_neg (Nat.not_le_of_lt (Nat.lt_succ_of_lt behind))]
        exact .refl settled

/-- At each time of a run every sending has one fate, and keeps it once it is settled:
    the queue holds the waiting events, each call that consumed something consumed the
    event of one sending, and each drain took those that were waiting; all of them in
    the order in which they were sent. The handlers are those of the registrations, in
    their order, and a dispatch offers each waiting event once to the handlers of its
    type, in that order, up to the first that consumes it; it makes these calls to
    handlers that note them, which otherwise changes nothing. -/
theorem each_sending_has_one_fate (state : σ) (operations : List (Operation σ)) :
    (∃ sendings : Nat → List Sending,
      (∀ time,
        let run := of state (operations.take time)
        Accounts (sendings time) run.history run.events.queue) ∧
      ∀ time, Follows (sendings time) (sendings (time + 1))) ∧
    let run := of state operations
    let next := of state (operations ++ [.dispatch])
    run.history.sent = operations.filterMap (·.sent?) ∧
    run.events.handlers = operations.filterMap (·.registered?) ∧
    ∃ calls, Dispatched run.events.placesOf run.events.queue next.events.queue calls ∧
      next.history.calls = run.history.calls ++ calls ∧
      run.events.noting.dispatch (run.state, run.history.calls) =
        (next.events.noting, next.state, next.history.calls) := by
  refine ⟨exists_accounts state operations, ?_⟩
  intro run next
  refine ⟨sent_of state operations, handlers_of state operations, ?_⟩
  obtain ⟨calls, dispatched, history, noted⟩ := run.step_dispatch
  simp only [next, of_concat]
  exact ⟨calls, dispatched, congrArg History.calls history, noted⟩

/-- A handler that consumes every second event leaves the first one to the drain. -/
example :
    let second : Handler Nat := fun _ offers => (offers % 2 = 1, offers + 1)
    let run := of 0 [.register .viewpointsChanged second, .send (.viewpointsChanged 1),
      .send (.activeViewpointChanged 0), .send (.viewpointsChanged 2), .dispatch, .drain]
    run.history.calls = [⟨0, .viewpointsChanged 1, false⟩, ⟨0, .viewpointsChanged 2, true⟩] ∧
      run.history.drained = [[.viewpointsChanged 1, .activeViewpointChanged 0]] := by
  decide

end Run

end EventSystem

end VrmlWorld
