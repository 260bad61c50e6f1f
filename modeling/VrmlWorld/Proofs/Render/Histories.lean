/-
  VrmlWorld/Proofs/Render/Histories.lean
  ======================================
  **What a drawing walk has been through.**

  What a walk makes at a node depends on what has been made before. Visits are
  chained: each takes over the caches that the one before has left, so an
  invariant that also speaks of the nodes met so far is carried along the list of
  visits and never along the tree (`Visit.Chained.history`).

  Two walks through the same occurrences meet the same nodes with the same
  properties as long as their passes agree on what the properties depend on
  (`Occurrence.visits_related`).
-/
import VrmlWorld.Proofs.Render.Visits
import VrmlWorld.Proofs.Scene.WellFormed
import Mathlib.Data.List.Forall2

namespace VrmlWorld

open VrmlWorld.Geometry

/-- What comes out on a way does so at some member, and at a state where all that
    is kept on the way still holds. -/
theorem mem_trail_of_kept {α β S : Type} {P : S → Prop} {go : α → S → S} {out : α → S → List β}
    {members : List α} {state : S} {b : β} (kept : ∀ a state, P state → P (go a state))
    (start : P state) (member : b ∈ trail go out members state) :
    ∃ a ∈ members, ∃ reached, P reached ∧ b ∈ out a reached := by
  induction members generalizing state with
  | nil => cases member
  | cons a others ih =>
    obtain here | later := List.mem_append.1 member
    · exact ⟨a, List.mem_cons_self .., state, start, here⟩
    · obtain ⟨other, among, found⟩ := ih (kept a state start) later
      exact ⟨other, List.mem_cons_of_mem _ among, found⟩

theorem mem_trail {α β S : Type} {go : α → S → S} {out : α → S → List β} {members : List α}
    {state : S} {b : β} (member : b ∈ trail go out members state) :
    ∃ a ∈ members, ∃ reached, b ∈ out a reached := by
  obtain ⟨a, among, reached, -, found⟩ :=
    mem_trail_of_kept (P := fun _ => True) (fun _ _ => id) trivial member
  exact ⟨a, among, reached, found⟩

theorem trail_map {α α' β S : Type} (go : α → S → S) (out : α → S → List β) (f : α' → α)
    (members : List α') (state : S) :
    trail go out (members.map f) state =
      trail (fun a => go (f a)) (fun a => out (f a)) members state := by
  induction members generalizing state with
  | nil => rfl
  | cons a others ih => rw [List.map_cons, trail, trail, ih]

/-- Two walks through a list whose states stay related have trails that are
    related member by member. -/
theorem trail_forall₂ {α β γ S T : Type} {R : S → T → Prop} {Q : β → γ → Prop} {fine : β → Prop}
    {go : α → S → S} {go' : α → T → T} {out : α → S → List β} {out' : α → T → List γ}
    (step : ∀ a state state', R state state' → (∀ b ∈ out a state, fine b) →
      R (go a state) (go' a state') ∧ List.Forall₂ Q (out a state) (out' a state'))
    (members : List α) {state : S} {state' : T} (related : R state state')
    (all : ∀ b ∈ trail go out members state, fine b) :
    R (members.foldl (fun state a => go a state) state)
        (members.foldl (fun state a => go' a state) state') ∧
      List.Forall₂ Q (trail go out members state) (trail go' out' members state') := by
  induction members generalizing state state' with
  | nil => exact ⟨related, .nil⟩
  | cons a others ih =>
    rw [trail] at all
    obtain ⟨first, rest⟩ := List.forall_mem_append.1 all
    obtain ⟨stays, here⟩ := step a state state' related first
    obtain ⟨atEnd, further⟩ := ih stays rest
    exact ⟨atEnd, List.rel_append here further⟩

theorem filterMap_eq_of_forall₂ {α β γ : Type} {R : α → β → Prop} {f : α → Option γ}
    {g : β → Option γ} {members : List α} {others : List β} (related : List.Forall₂ R members others)
    (agree : ∀ a ∈ members, ∀ b, R a b → f a = g b) : members.filterMap f = others.filterMap g := by
  induction related with
  | nil => rfl
  | @cons a b members others here _ ih =>
    rw [List.filterMap_cons, List.filterMap_cons, agree a (List.mem_cons_self ..) b here,
      ih fun a member => agree a (List.mem_cons_of_mem _ member)]

theorem Pass.shut_of_entering? {σ : Type} {properties inner : Properties} {kind : NodeKind}
    (entering : properties.entering? kind = some inner) (pass : Pass σ) (node : NodeId) :
    pass.shut properties node kind = pass := by
  cases kind with
  | inline inline =>
    have loaded : inline.status = .loaded := by
      cases status : inline.status <;> simp [Properties.entering?, status] at entering ⊢
    simp [Pass.shut, loaded]
  | _ => rfl

namespace Visit

variable {σ τ : Type} {host : Host σ}

/-- The properties and the pass right behind a node; behind a group they are
    those that its children are approached with. -/
def behind (visit : Visit σ) (host : Host σ) (view : View) : Properties × Pass σ :=
  if visit.kind.isGroup then
    (visit.properties, visit.pass.shut visit.properties visit.node visit.kind)
  else visit.pass.meet host view visit.properties visit.node visit.kind

theorem behind_of_group {visit : Visit σ} (group : visit.kind.isGroup = true) (view : View) :
    visit.behind host view =
      (visit.properties, visit.pass.shut visit.properties visit.node visit.kind) :=
  if_pos group

theorem behind_of_single {visit : Visit σ} (single : visit.kind.isGroup = false) (view : View) :
    visit.behind host view =
      visit.pass.meet host view visit.properties visit.node visit.kind := by
  simp [behind, single]

/-- The same node met with the same properties by another walk. -/
def along (visit : Visit σ) (pass : Pass τ) : Visit τ := { visit with pass }

@[simp] theorem along_node (visit : Visit σ) (pass : Pass τ) :
    (visit.along pass).node = visit.node := rfl

@[simp] theorem along_kind (visit : Visit σ) (pass : Pass τ) :
    (visit.along pass).kind = visit.kind := rfl

@[simp] theorem along_properties (visit : Visit σ) (pass : Pass τ) :
    (visit.along pass).properties = visit.properties := rfl

@[simp] theorem along_pass (visit : Visit σ) (pass : Pass τ) : (visit.along pass).pass = pass := rfl

/-! ### Chains -/

/-- Visits each of which takes over the caches that the one before has left. They
    may be those of several frames, as long as round shapes are cut alike. -/
inductive Chained (host : Host σ) (segments : Nat) : Caches → List (Visit σ) → Caches → Prop where
  | nil {caches : Caches} : Chained host segments caches [] caches
  | cons {visit : Visit σ} {others : List (Visit σ)} {last : Caches} (view : View)
      (cut : view.segments = segments)
      (rest : Chained host segments (visit.behind host view).2.caches others last) :
      Chained host segments visit.pass.caches (visit :: others) last

variable {segments : Nat} {caches between last : Caches} {visits others : List (Visit σ)}

theorem Chained.append (first : Chained host segments caches visits between)
    (second : Chained host segments between others last) :
    Chained host segments caches (visits ++ others) last := by
  induction first with
  | nil => exact second
  | cons view cut _ ih => exact .cons view cut (ih second)

/-- What every visit keeps, as the list of earlier visits grows, holds behind the
    last visit, and held before each of them. -/
theorem Chained.history {P : List (Visit σ) → Caches → Prop}
    (chained : Chained host segments caches visits last)
    (step : ∀ seen, ∀ visit ∈ visits, ∀ view : View, view.segments = segments →
      P seen visit.pass.caches → P (seen ++ [visit]) (visit.behind host view).2.caches)
    (seen : List (Visit σ)) (start : P seen caches) :
    P (seen ++ visits) last ∧
      ∀ before visit after, visits = before ++ visit :: after →
        P (seen ++ before) visit.pass.caches := by
  induction chained generalizing seen with
  | nil => exact ⟨by simpa using start, fun before visit after split => by simp at split⟩
  | @cons first others last view cut rest ih =>
    have further := step seen first (List.mem_cons_self ..) view cut start
    obtain ⟨atEnd, onTheWay⟩ :=
      ih (fun seen visit member => step seen visit (List.mem_cons_of_mem _ member)) _ further
    refine ⟨by simpa using atEnd, ?_⟩
    intro before visit after split
    cases before with
    | nil =>
      obtain ⟨rfl, rfl⟩ := List.cons.inj split
      simpa using start
    | cons second before =>
      obtain ⟨rfl, rfl⟩ := List.cons.inj split
      simpa using onTheWay before visit after rfl

end Visit

namespace Occurrence

variable {σ τ : Type}

theorem chained_visits (host : Host σ) (view : View) (occurrence : Occurrence)
    (state : Properties × Pass σ) :
    Visit.Chained host view.segments state.2.caches (occurrence.visits host view state)
      (occurrence.visit host view state).2.caches := by
  induction occurrence generalizing state with
  | absent id => exact .nil
  | node id kind arity child ih =>
    obtain ⟨properties, pass⟩ := state
    have alone {last : Pass σ}
        (h : (Visit.behind ⟨id, kind, properties, pass⟩ host view).2 = last) :
        Visit.Chained host view.segments pass.caches [⟨id, kind, properties, pass⟩] last.caches :=
      h ▸ @Visit.Chained.cons _ _ _ ⟨id, kind, properties, pass⟩ _ _ view rfl .nil
    cases group : kind.isGroup with
    | false =>
      simp only [visits, visit, group, Bool.false_eq_true, if_false]
      exact alone (by simp [Visit.behind, group])
    | true =>
      cases entering : properties.entering? kind with
      | none =>
        simp only [visits, visit, group, entering, if_true]
        exact alone (by simp [Visit.behind, group])
      | some inner =>
        simp only [visits, visit, group, entering, if_true]
        refine @Visit.Chained.cons _ _ _ ⟨id, kind, properties, pass⟩ _ _ view rfl ?_
        have start : (Visit.behind ⟨id, kind, properties, pass⟩ host view).2 = (inner, pass).2 := by
          simp [Visit.behind, group, Pass.shut_of_entering? entering]
        rw [start]
        generalize shown kind arity properties.transform view.viewer = positions
        generalize (inner, pass) = state
        induction positions generalizing state with
        | nil => exact .nil
        | cons position positions further => exact (ih position state).append (further _)

/-! ### Walks through stored scenes -/

section Stored

variable {host : Host σ} {view : View} {graph : SceneGraph} {id : NodeId} {node : Node}

theorem visit_unfold_single (found : graph.get? id = some node) (single : node.kind.isGroup = false)
    (depth : Nat) (state : Properties × Pass σ) :
    (graph.unfold (depth + 1) id).visit host view state =
      state.2.meet host view state.1 id node.kind := by
  obtain ⟨properties, pass⟩ := state
  simp [SceneGraph.unfold, found, visit, single]

/-- A walk through a group goes on with those of its children that are shown. -/
theorem visit_unfold_group (found : graph.get? id = some node) (group : node.kind.isGroup = true)
    (state : Properties × Pass σ) {inner : Properties} {children : List NodeId}
    (entering : state.1.entering? node.kind = some inner)
    (shown : active node.kind node.children state.1.transform view.viewer = children) (depth : Nat) :
    (graph.unfold (depth + 1) id).visit host view state =
      let left := children.foldl
        (fun state child => (graph.unfold depth child).visit host view state) (inner, state.2)
      (state.1.leaving node.kind left.1, left.2) := by
  obtain ⟨properties, pass⟩ := state
  rw [← shown, active_eq_map_shown, List.foldl_map]
  simp [SceneGraph.unfold, found, visit, group, entering]

theorem visits_unfold_single (found : graph.get? id = some node)
    (single : node.kind.isGroup = false) (depth : Nat) (state : Properties × Pass σ) :
    (graph.unfold (depth + 1) id).visits host view state = [⟨id, node.kind, state.1, state.2⟩] := by
  obtain ⟨properties, pass⟩ := state
  simp [SceneGraph.unfold, found, visits, single]

theorem visits_unfold_group (found : graph.get? id = some node) (group : node.kind.isGroup = true)
    (state : Properties × Pass σ) {inner : Properties} {children : List NodeId}
    (entering : state.1.entering? node.kind = some inner)
    (shown : active node.kind node.children state.1.transform view.viewer = children) (depth : Nat) :
    (graph.unfold (depth + 1) id).visits host view state =
      ⟨id, node.kind, state.1, state.2⟩ ::
        trail (fun child => (graph.unfold depth child).visit host view)
          (fun child => (graph.unfold depth child).visits host view) children (inner, state.2) := by
  obtain ⟨properties, pass⟩ := state
  rw [← shown, active_eq_map_shown, trail_map]
  simp [SceneGraph.unfold, found, visits, group, entering]

end Stored

theorem kind?_of_mem_visits {host : Host σ} {view : View} {graph : SceneGraph} {depth : Nat}
    {id : NodeId} {state : Properties × Pass σ} {visit : Visit σ}
    (member : visit ∈ (graph.unfold depth id).visits host view state) :
    graph.kind? visit.node = some visit.kind := by
  induction depth generalizing id state with
  | zero => simp [SceneGraph.unfold, visits] at member
  | succ depth ih =>
    obtain ⟨properties, pass⟩ := state
    rw [SceneGraph.unfold] at member
    cases found : graph.get? id with
    | none => simp [found, visits] at member
    | some node =>
      simp only [found, visits, List.mem_cons] at member
      obtain rfl | below := member
      · simp [SceneGraph.kind?, found]
      · split at below
        · split at below
          · cases below
          · obtain ⟨position, -, state, found⟩ := mem_trail below
            exact ih found
        · cases below

/-- A walk that goes alongside another one. At each visit their passes are
    related; if every visit keeps them so and leaves the same properties in both,
    then both walks meet the same nodes with the same properties. -/
theorem visits_related {host : Host σ} {host' : Host τ} {view : View}
    {R : Pass σ → Pass τ → Prop} (occurrence : Occurrence) {state : Properties × Pass σ}
    {state' : Properties × Pass τ} (same : state.1 = state'.1) (related : R state.2 state'.2)
    (step : ∀ visit ∈ occurrence.visits host view state, ∀ pass', R visit.pass pass' →
      (visit.behind host view).1 = ((visit.along pass').behind host' view).1 ∧
        R (visit.behind host view).2 ((visit.along pass').behind host' view).2) :
    ((occurrence.visit host view state).1 = (occurrence.visit host' view state').1 ∧
        R (occurrence.visit host view state).2 (occurrence.visit host' view state').2) ∧
      List.Forall₂ (fun visit visit' => visit' = visit.along visit'.pass ∧ R visit.pass visit'.pass)
        (occurrence.visits host view state) (occurrence.visits host' view state') := by
  induction occurrence generalizing state state' with
  | absent id => exact ⟨⟨same, related⟩, .nil⟩
  | node id kind arity child ih =>
    obtain ⟨properties, pass⟩ := state
    obtain ⟨properties', pass'⟩ := state'
    obtain rfl : properties = properties' := same
    have here := step ⟨id, kind, properties, pass⟩ (by simp [visits]) pass' related
    have met : (⟨id, kind, properties, pass'⟩ : Visit τ) =
        (⟨id, kind, properties, pass⟩ : Visit σ).along pass' ∧ R pass pass' := ⟨rfl, related⟩
    cases group : kind.isGroup with
    | false =>
      simp only [Visit.behind, Visit.along, group, Bool.false_eq_true, if_false] at here
      simp only [visit, visits, group, Bool.false_eq_true, if_false]
      exact ⟨here, .cons met .nil⟩
    | true =>
      simp only [Visit.behind, Visit.along, group, if_true] at here
      cases entering : properties.entering? kind with
      | none =>
        simp only [visit, visits, group, entering, if_true]
        exact ⟨here, .cons met .nil⟩
      | some inner =>
        simp only [visit, visits, group, entering, if_true] at step ⊢
        let Alike (state : Properties × Pass σ) (state' : Properties × Pass τ) : Prop :=
          state.1 = state'.1 ∧ R state.2 state'.2
        have start : Alike (inner, pass) (inner, pass') := ⟨rfl, related⟩
        obtain ⟨⟨left, stays⟩, below⟩ := trail_forall₂ (R := Alike)
          (fun position _ _ related fine => ih position related.1 related.2 fine)
          (shown kind arity properties.transform view.viewer) start
          (fun visit member => step visit (List.mem_cons_of_mem _ member))
        exact ⟨⟨by rw [left], stays⟩, .cons met below⟩

end Occurrence

end VrmlWorld
