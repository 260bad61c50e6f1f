/-
  VrmlWorld/Proofs/Render/Leaks.lean
  ==================================
  **Which properties of a shape depend on where the viewer stands.**

  Meshes are made from a part of the properties that neither transforms nor
  textures touch (`Properties.shaping`). Groups that keep nothing to themselves
  leak what their children leave of it to later siblings. A level of detail picks
  a child by the viewer's distance, so what it leaks may depend on the viewer.

  In a scene whose levels of detail leak nothing, every walk finds a shape with
  the same shaping properties, from wherever it looks (`Occurrence.visits_agree`).
-/
import VrmlWorld.Proofs.Render.Histories
import Mathlib.Data.List.Pairwise

namespace VrmlWorld

open VrmlWorld.Geometry

/-! ### What meshes are made from -/

/-- Whether a node that is no group changes what meshes are made from. -/
def NodeKind.isShaping : NodeKind → Bool
  | material _ | textureCoordinate2 _ | coordinate3 _ | normal _ | normalBinding _
  | materialBinding _ | shapeHints _ | fontStyle _ => true
  | _ => false

def NodeKind.isLod : NodeKind → Bool
  | lod _ => true
  | _ => false

namespace Properties

variable {properties inner : Properties} {kind : NodeKind}

/-- What meshes are made from: all but the place, the texture and the location. -/
def shaping (properties : Properties) : Properties :=
  { properties with
    transform := .identity
    texture := none
    textureTransform := .identity
    base := none }

theorem context_eq_of_shaping_eq {other : Properties} (same : properties.shaping = other.shaping)
    (segments : Nat) : properties.context segments = other.context segments :=
  congrArg (·.context segments) same

theorem font_eq_of_shaping_eq {other : Properties} (same : properties.shaping = other.shaping) :
    properties.font = other.font :=
  congrArg (·.font) same

theorem shaping_after_congr {other : Properties} (same : properties.shaping = other.shaping)
    (kind : NodeKind) : (properties.after kind).shaping = (other.after kind).shaping := by
  have once (properties : Properties) :
      (properties.after kind).shaping = (properties.shaping.after kind).shaping := by
    cases kind <;> simp only [after, withMaterial, shaping]
  rw [once, same, ← once]

theorem shaping_after_of_not_isShaping (other : kind.isShaping = false) :
    (properties.after kind).shaping = properties.shaping := by
  cases kind <;> first | (cases other; done) | simp only [after, shaping]

theorem shaping_of_entering? (entering : properties.entering? kind = some inner) :
    inner.shaping = properties.shaping := by
  cases kind with
  | inline inline =>
    simp only [entering?] at entering
    split at entering
    · cases entering
      rfl
    · cases entering
  | _ =>
    cases entering
    rfl

theorem isSome_entering? (properties other : Properties) (kind : NodeKind) :
    (properties.entering? kind).isSome = (other.entering? kind).isSome := by
  cases kind with
  | inline inline =>
    simp only [entering?]
    split <;> rfl
  | _ => rfl

theorem shaping_leaving (properties : Properties) (kind : NodeKind) (inner : Properties) :
    (properties.leaving kind inner).shaping =
      if kind.restoresState then properties.shaping else inner.shaping := by
  rw [leaving]
  split <;> rfl

/-- Of all that a node does to the properties, only property nodes matter for
    meshes. -/
theorem shaping_meet {σ : Type} (pass : Pass σ) (host : Host σ) (view : View)
    (properties : Properties) (node : NodeId) (kind : NodeKind) :
    (pass.meet host view properties node kind).1.shaping = (properties.after kind).shaping := by
  cases kind with
  | texture2 texture => rfl
  | _ => simp [Pass.meet, NodeKind.isShape, after]

end Properties

/-! ### Leaks -/

namespace Occurrence

/-- The shapes from an occurrence on, hidden ones among them. -/
def shapes : Occurrence → List NodeId
  | absent _ => []
  | node id kind arity child =>
      (if kind.isShape then [id] else []) ++
        (List.finRange arity).flatMap fun position => shapes (child position)

/-- Whether a walk through an occurrence may change what the meshes of later
    siblings are made from. -/
def leaks : Occurrence → Bool
  | absent _ => false
  | node _ kind arity child =>
      if kind.isGroup then
        !kind.restoresState && (List.finRange arity).any fun position => leaks (child position)
      else kind.isShaping

/-- Whether no child of a level of detail leaks. -/
def isSteady : Occurrence → Bool
  | absent _ => true
  | node _ kind arity child =>
      (List.finRange arity).all fun position =>
        isSteady (child position) && !(kind.isLod && leaks (child position))

variable {σ : Type} {host : Host σ} {view view' : View}

theorem shaping_visit_of_closed {occurrence : Occurrence} (closed : occurrence.leaks = false)
    (state : Properties × Pass σ) :
    (occurrence.visit host view state).1.shaping = state.1.shaping := by
  induction occurrence generalizing state with
  | absent id => rfl
  | node id kind arity child ih =>
    obtain ⟨properties, pass⟩ := state
    cases group : kind.isGroup with
    | false =>
      have other : kind.isShaping = false := by simpa [leaks, group] using closed
      simp only [visit, group, Bool.false_eq_true, if_false]
      rw [Properties.shaping_meet, Properties.shaping_after_of_not_isShaping other]
    | true =>
      cases entering : properties.entering? kind with
      | none => simp [visit, group, entering]
      | some inner =>
        simp only [visit, group, entering, if_true, Properties.shaping_leaving]
        cases restores : kind.restoresState with
        | true => rfl
        | false =>
          have below : ∀ position, (child position).leaks = false := by
            simpa [leaks, group, restores] using closed
          simp only [Bool.false_eq_true, if_false]
          rw [← Properties.shaping_of_entering? entering]
          generalize shown kind arity properties.transform view.viewer = positions
          change (positions.foldl _ (inner, pass)).1.shaping = (inner, pass).1.shaping
          generalize (inner, pass) = state
          induction positions generalizing state with
          | nil => rfl
          | cons position positions further =>
            rw [List.foldl_cons, further, ih position (below position)]

theorem mem_shapes_of_mem_visits {occurrence : Occurrence} {state : Properties × Pass σ}
    {visit : Visit σ} (member : visit ∈ occurrence.visits host view state)
    (shape : visit.kind.isShape) : visit.node ∈ occurrence.shapes := by
  induction occurrence generalizing state with
  | absent id => cases member
  | node id kind arity child ih =>
    obtain ⟨properties, pass⟩ := state
    rw [shapes]
    rw [visits] at member
    obtain rfl | below := List.mem_cons.1 member
    · simp [shape]
    · refine List.mem_append_right _ ?_
      split at below
      · split at below
        · cases below
        · obtain ⟨position, -, state, found⟩ := mem_trail below
          exact List.mem_flatMap.2 ⟨position, List.mem_finRange position, ih position found⟩
      · cases below

/-! ### Walks that agree about shapes -/

theorem active_of_not_isLod {α : Type} {kind : NodeKind} (other : kind.isLod = false)
    (children : List α) (placement placement' : Mat4) (viewer viewer' : Vec3) :
    active kind children placement viewer = active kind children placement' viewer' := by
  cases kind <;> first | rfl | cases other

theorem shown_of_not_isLod {kind : NodeKind} (other : kind.isLod = false) (arity : Nat)
    (placement placement' : Mat4) (viewer viewer' : Vec3) :
    shown kind arity placement viewer = shown kind arity placement' viewer' :=
  active_of_not_isLod other (List.finRange arity) placement placement' viewer viewer'

theorem exists_shown_of_isLod {kind : NodeKind} (lod : kind.isLod = true) (arity : Nat)
    (placement : Mat4) (viewer : Vec3) :
    ∃ only : Option (Fin arity), shown kind arity placement viewer = only.toList := by
  cases kind with
  | lod lod =>
    simp only [shown, active]
    split
    · exact ⟨_, rfl⟩
    · exact ⟨none, rfl⟩
  | _ => cases lod

/-- Visits of one shape find the same shaping properties. -/
def Agree (visits visits' : List (Visit σ)) : Prop :=
  ∀ visit ∈ visits, ∀ visit' ∈ visits', visit.kind.isShape → visit'.kind.isShape →
    visit.node = visit'.node → visit.properties.shaping = visit'.properties.shaping

theorem Agree.nil (visits : List (Visit σ)) : Agree [] visits := by
  intro visit member
  cases member

theorem Agree.symm {visits visits' : List (Visit σ)} (agree : Agree visits visits') :
    Agree visits' visits := by
  intro visit member visit' member' shape shape' sameNode
  exact (agree visit' member' visit member shape' shape sameNode.symm).symm

theorem Agree.append {first second first' second' : List (Visit σ)} (one : Agree first first')
    (two : Agree first second') (three : Agree second first') (four : Agree second second') :
    Agree (first ++ second) (first' ++ second') := by
  intro visit member visit' member'
  obtain here | there := List.mem_append.1 member
  · obtain here' | there' := List.mem_append.1 member'
    · exact one visit here visit' here'
    · exact two visit here visit' there'
  · obtain here' | there' := List.mem_append.1 member'
    · exact three visit there visit' here'
    · exact four visit there visit' there'

theorem Agree.cons {visit visit' : Visit σ} {others others' : List (Visit σ)}
    (other : visit.kind.isShape = false) (other' : visit'.kind.isShape = false)
    (rest : Agree others others') : Agree (visit :: others) (visit' :: others') := by
  intro first member second member' shape shape'
  obtain rfl | later := List.mem_cons.1 member
  · rw [other] at shape
    cases shape
  · obtain rfl | later' := List.mem_cons.1 member'
    · rw [other'] at shape'
      cases shape'
    · exact rest first later second later' shape shape'

section Children

variable {arity : Nat} {child : Fin arity → Occurrence}

/-- Different children have no shape in common. -/
def Apart (child : Fin arity → Occurrence) : Prop :=
  ∀ position other, position ≠ other → List.Disjoint (child position).shapes (child other).shapes

def visitsOf (host : Host σ) (view : View) (child : Fin arity → Occurrence)
    (positions : List (Fin arity)) (state : Properties × Pass σ) : List (Visit σ) :=
  trail (fun position => visit host view (child position))
    (fun position => visits host view (child position)) positions state

theorem Apart.agree (apart : Apart child) {positions others : List (Fin arity)}
    (different : ∀ position ∈ positions, ∀ other ∈ others, position ≠ other)
    (state state' : Properties × Pass σ) :
    Agree (visitsOf host view child positions state) (visitsOf host view' child others state') := by
  intro first member second member' shape shape' sameNode
  obtain ⟨position, among, _, found⟩ := mem_trail member
  obtain ⟨other, among', _, found'⟩ := mem_trail member'
  have common := mem_shapes_of_mem_visits found' shape'
  rw [← sameNode] at common
  have disjoint := apart position other (different position among other among')
  exact absurd common (disjoint (mem_shapes_of_mem_visits found shape))

/-- Walks through an occurrence that begin with the same shaping properties end with
    the same, and find each shape with the same in between. -/
def Steadfast (host : Host σ) (view view' : View) (occurrence : Occurrence) : Prop :=
  ∀ state state' : Properties × Pass σ, state.1.shaping = state'.1.shaping →
    (occurrence.visit host view state).1.shaping = (occurrence.visit host view' state').1.shaping ∧
      Agree (occurrence.visits host view state) (occurrence.visits host view' state')

/-- Walks through the same children agree if those through each child do. -/
theorem Apart.trail_agree (apart : Apart child)
    (each : ∀ position, Steadfast host view view' (child position))
    {positions : List (Fin arity)} (nodup : positions.Nodup) {state state' : Properties × Pass σ}
    (same : state.1.shaping = state'.1.shaping) :
    (positions.foldl (fun state position => visit host view (child position) state) state).1.shaping =
        (positions.foldl (fun state position => visit host view' (child position) state)
          state').1.shaping ∧
      Agree (visitsOf host view child positions state)
        (visitsOf host view' child positions state') := by
  induction positions generalizing state state' with
  | nil => exact ⟨same, .nil _⟩
  | cons position positions ih =>
    obtain ⟨fresh, nodup⟩ := List.nodup_cons.1 nodup
    obtain ⟨sameBehind, here⟩ := each position state state' same
    obtain ⟨sameLast, later⟩ := ih nodup sameBehind
    have different : ∀ first ∈ [position], ∀ other ∈ positions, first ≠ other := by
      rintro first member other among rfl
      obtain rfl := List.mem_singleton.1 member
      exact fresh among
    have alone (view : View) (state : Properties × Pass σ) :
        visitsOf host view child [position] state = (child position).visits host view state :=
      List.append_nil _
    refine ⟨sameLast, here.append ?_ ?_ later⟩
    · rw [← alone]
      exact apart.agree different _ _
    · rw [← alone view']
      apply apart.agree
      intro other among first member
      exact (different first member other among).symm

theorem Apart.level_agree (apart : Apart child)
    (each : ∀ position, Steadfast host view view' (child position)) (only only' : Option (Fin arity))
    {state state' : Properties × Pass σ} (same : state.1.shaping = state'.1.shaping) :
    Agree (visitsOf host view child only.toList state)
      (visitsOf host view' child only'.toList state') := by
  cases only with
  | none => exact .nil _
  | some position =>
    cases only' with
    | none => exact (Agree.nil _).symm
    | some other =>
      by_cases different : position = other
      · subst different
        exact (apart.trail_agree each (List.nodup_singleton position) same).2
      · refine apart.agree ?_ state state'
        intro first member second member'
        rw [List.mem_singleton.1 member, List.mem_singleton.1 member']
        exact different

theorem shaping_level (closed : ∀ position, (child position).leaks = false) (view : View)
    (only : Option (Fin arity)) (state : Properties × Pass σ) :
    (only.toList.foldl (fun state position => visit host view (child position) state)
      state).1.shaping = state.1.shaping := by
  cases only with
  | none => rfl
  | some position => exact shaping_visit_of_closed (closed position) state

/-- No shape below a node occurs twice if none does below the node and its
    siblings. -/
theorem apart_of_nodup_shapes {id : NodeId} {kind : NodeKind}
    (once : (node id kind arity child).shapes.Nodup) :
    Apart child ∧ ∀ position, (child position).shapes.Nodup := by
  have below := List.nodup_flatMap.1 (List.nodup_append.1 once).2.1
  refine ⟨?_, fun position => below.1 position (List.mem_finRange position)⟩
  intro position other different
  have symmetric : Std.Symm
      (Function.onFun List.Disjoint fun position => (child position).shapes) :=
    ⟨fun _ _ => List.Disjoint.symm⟩
  exact below.2.forall (List.mem_finRange position) (List.mem_finRange other) different

end Children

/-- A steady part of a scene is steadfast if no shape occurs twice in it. Only
    below a level of detail may walks go different ways, and there they meet
    different shapes and leave nothing behind. -/
theorem visits_agree {occurrence : Occurrence} (steady : occurrence.isSteady)
    (once : occurrence.shapes.Nodup) : Steadfast host view view' occurrence := by
  induction occurrence with
  | absent id => exact fun _ _ same => ⟨same, .nil _⟩
  | node id kind arity child ih =>
    rintro ⟨properties, pass⟩ ⟨properties', pass'⟩ same
    cases group : kind.isGroup with
    | false =>
      simp only [visit, visits, group, Bool.false_eq_true, if_false]
      constructor
      · rw [Properties.shaping_meet, Properties.shaping_meet]
        exact Properties.shaping_after_congr same kind
      · intro visit member visit' member' _ _ _
        obtain rfl := List.mem_singleton.1 member
        obtain rfl := List.mem_singleton.1 member'
        exact same
    | true =>
      have shapeless : kind.isShape = false := by cases kind <;> first | rfl | cases group
      have entered := Properties.isSome_entering? properties properties' kind
      cases entering : properties.entering? kind with
      | none =>
        have entering' : properties'.entering? kind = none := by simpa [entering] using entered
        simp only [visit, visits, group, entering, entering', if_true]
        exact ⟨same, .cons shapeless shapeless (.nil _)⟩
      | some inner =>
        rw [entering, Option.isSome_some, eq_comm, Option.isSome_iff_exists] at entered
        obtain ⟨inner', entering'⟩ := entered
        simp only [visit, visits, group, entering, entering', if_true, Properties.shaping_leaving]
        have sameInner : (inner, pass).1.shaping = (inner', pass').1.shaping := by
          rw [Properties.shaping_of_entering? entering, Properties.shaping_of_entering? entering',
            same]
        obtain ⟨apart, onceBelow⟩ := apart_of_nodup_shapes once
        rw [isSteady, List.all_eq_true] at steady
        have each (position : Fin arity) : Steadfast host view view' (child position) := by
          have steadyBelow := steady position (List.mem_finRange position)
          exact ih position (Bool.and_eq_true_iff.1 steadyBelow).1 (onceBelow position)
        cases lod : kind.isLod with
        | false =>
          rw [shown_of_not_isLod lod arity properties.transform properties'.transform view.viewer
            view'.viewer]
          have nodup := (List.nodup_finRange arity).sublist
            (active_sublist kind _ properties'.transform view'.viewer)
          obtain ⟨sameLast, agree⟩ := apart.trail_agree each nodup sameInner
          refine ⟨?_, .cons shapeless shapeless agree⟩
          have same : properties.shaping = properties'.shaping := same
          rw [same, sameLast]
        | true =>
          obtain ⟨only, isShown⟩ := exists_shown_of_isLod lod arity properties.transform view.viewer
          obtain ⟨only', isShown'⟩ :=
            exists_shown_of_isLod lod arity properties'.transform view'.viewer
          have closed : ∀ position, (child position).leaks = false := by
            intro position
            have steadyBelow := steady position (List.mem_finRange position)
            simpa [lod] using (Bool.and_eq_true_iff.1 steadyBelow).2
          have keeps : kind.restoresState = false := by cases kind <;> first | rfl | cases lod
          rw [isShown, isShown', shaping_level closed, shaping_level closed, keeps, sameInner]
          exact ⟨rfl, .cons shapeless shapeless (apart.level_agree each only only' sameInner)⟩

end Occurrence

end VrmlWorld
