/-
  VrmlWorld/Proofs/Scene/Levels.lean
  ==================================
  **Which level of detail is shown at which distance.**

  A level is found by a search through thresholds that may stand in any order and
  need not be numbers, and the search is held back at the last child. Its answer is
  the least of all positions where it may stop (`isLeast_lodStops`). A threshold that
  is beyond a viewer is beyond every nearer viewer as well, so the search may stop
  nearby wherever it may stop far away, and levels only go up with the distance
  (`lodLevel_mono`).
-/
import Mathlib.Order.Bounds.Basic
import VrmlWorld.Proofs.Number.Order
import VrmlWorld.Scene.Selection

namespace VrmlWorld

open VrmlWorld.Geometry Number

/-! ### Where the search stops -/

section Stops

variable {α : Type} [LT α] {range : List α} {count : Nat}

/-- Where the search for a level at a distance may stop: at the last child, behind
    all thresholds, and at each threshold beyond the distance. -/
def LodStops (range : List α) (count : Nat) (distance : α) : Set Nat :=
  {position | position = count - 1 ∨ position = range.length ∨
    ∃ threshold, range[position]? = some threshold ∧ distance < threshold}

/-- The search may stop at more places for a nearer viewer, if what is beyond the
    farther one is beyond the nearer one. -/
theorem lodStops_subset {near far : α} (beyond : ∀ threshold, far < threshold → near < threshold) :
    LodStops range count far ⊆ LodStops range count near := by
  rintro position (last | behind | ⟨threshold, isThreshold, exceeds⟩)
  · exact .inl last
  · exact .inr (.inl behind)
  · exact .inr (.inr ⟨threshold, isThreshold, beyond threshold exceeds⟩)

variable [DecidableLT α]

theorem findIdx_mem_lodStops (distance : α) :
    range.findIdx (distance < ·) ∈ LodStops range count distance := by
  have bounded : range.findIdx (distance < ·) ≤ range.length := List.findIdx_le_length
  rcases Nat.lt_or_eq_of_le bounded with within | behind
  · have exceeds := List.findIdx_getElem (w := within)
    exact .inr (.inr ⟨_, List.getElem?_eq_getElem within, of_decide_eq_true exceeds⟩)
  · exact .inr (.inl behind)

/-- The position that the search answers with, where there are children. -/
def lodLevel (range : List α) (count : Nat) (distance : α) : Nat :=
  min (range.findIdx (distance < ·)) (count - 1)

theorem isLeast_lodStops (distance : α) :
    IsLeast (LodStops range count distance) (lodLevel range count distance) := by
  constructor
  · rcases min_choice (range.findIdx (distance < ·)) (count - 1) with found | last
    · rw [lodLevel, found]
      exact findIdx_mem_lodStops distance
    · rw [lodLevel, last]
      exact .inl rfl
  · rintro position (rfl | rfl | ⟨threshold, isThreshold, exceeds⟩)
    · exact min_le_right _ _
    · exact (min_le_left _ _).trans List.findIdx_le_length
    · refine (min_le_left _ _).trans (not_lt.1 fun earlier => ?_)
      have passed := List.not_of_lt_findIdx earlier
      obtain ⟨_, rfl⟩ := List.getElem?_eq_some_iff.1 isThreshold
      exact of_decide_eq_false passed exceeds

theorem selectLod_eq (range : List α) (occupied : 0 < count) (distance : α) :
    selectLod range count distance = some (lodLevel range count distance) :=
  if_neg occupied.ne'

theorem lodLevel_lt (range : List α) (occupied : 0 < count) (distance : α) :
    lodLevel range count distance < count :=
  (min_le_right _ _).trans_lt (Nat.sub_one_lt occupied.ne')

end Stops

/-! ### Levels -/

theorem lodLevel_mono (range : List Float32) (count : Nat) {near far : Float32} (le : near ≤ far) :
    lodLevel range count near ≤ lodLevel range count far := by
  apply (isLeast_lodStops far).mono (isLeast_lodStops near)
  apply lodStops_subset
  intro threshold exceeds
  exact Single.lt_of_le_of_lt le exceeds

/-- A level of detail with children shows exactly one of them. Which one is told by
    the distance alone, and it is no earlier one from farther away. -/
theorem active_lod {α : Type} (lod : Lod) {children : List α} (occupied : children ≠ []) :
    ∃ level : Float32 → Nat,
      (∀ placement viewer, ∃ child,
        children[level (viewer - placement.mapPoint lod.center).norm]? = some child ∧
          active (.lod lod) children placement viewer = [child]) ∧
      ∀ near far, near ≤ far → level near ≤ level far := by
  refine ⟨lodLevel lod.range children.length, ?_, ?_⟩
  · intro placement viewer
    have positive := List.length_pos_iff.2 occupied
    have isChild := List.getElem?_eq_getElem
      (lodLevel_lt lod.range positive (viewer - placement.mapPoint lod.center).norm)
    refine ⟨_, isChild, ?_⟩
    simp only [active, selectLod_eq lod.range positive, memberAt, isChild, Option.toList_some]
  · intro near far
    exact lodLevel_mono lod.range children.length

/-- With any children at all there is a level for every distance, whether that is a
    number or not: the least position where the search may stop, and so the position
    of a child. A farther viewer gets no earlier level. -/
theorem levels_up_with_distance (range : List Float32) {count : Nat} (occupied : 0 < count) :
    ∃ level : Float32 → Nat,
      (∀ distance, selectLod range count distance = some (level distance) ∧
        level distance < count ∧ IsLeast (LodStops range count distance) (level distance)) ∧
      ∀ near far, near ≤ far → level near ≤ level far := by
  refine ⟨lodLevel range count, ?_, ?_⟩
  · intro distance
    exact ⟨selectLod_eq range occupied distance, lodLevel_lt range occupied distance,
      isLeast_lodStops distance⟩
  · intro near far
    exact lodLevel_mono range count

/-- Two thresholds in falling order, with what is no number between them. -/
theorem levels_up_with_distance_past_no_number :
    0 < 3 ∧ ∃ level : Float32 → Nat,
      (∀ distance, selectLod [20, 0 / 0, 5] 3 distance = some (level distance) ∧
        level distance < 3 ∧ IsLeast (LodStops [20, 0 / 0, 5] 3 distance) (level distance)) ∧
      ∀ near far, near ≤ far → level near ≤ level far :=
  ⟨by decide, levels_up_with_distance [20, 0 / 0, 5] (by decide)⟩

end VrmlWorld
