/-
  VrmlWorld/Proofs/Viewer/Nearest.lean
  ====================================
  **Which hit wins.**

  Among hits whose distances are numbers, the first nearest one in front of the
  origin wins. A hit whose distance is no number is neither behind the origin nor
  beyond another hit: it takes the place of the best hit so far, and gives it up to
  the next hit in front of the origin. What was hit before the last of these is
  forgotten (`pickRay_nearest_since_no_number`).
-/
import Mathlib.Data.List.Induction
import VrmlWorld.Proofs.Number.Order
import VrmlWorld.Viewer.Pick

namespace VrmlWorld

open VrmlWorld.Geometry Number

namespace Candidate

/-! ### One candidate more -/

variable {best other : Candidate}

theorem better_of_behind (behind : other.distance ≤ 0) (answer : Option Candidate) :
    better answer other = answer := by
  simp only [better, if_pos behind]

theorem better_of_none (front : ¬other.distance ≤ 0) : better none other = some other := by
  simp only [better, if_neg front]

theorem better_of_beyond (front : ¬other.distance ≤ 0) (beyond : best.distance ≤ other.distance) :
    better (some best) other = some best := by
  simp only [better, if_neg front, if_pos beyond]

theorem better_of_not_beyond (front : ¬other.distance ≤ 0)
    (nearer : ¬best.distance ≤ other.distance) : better (some best) other = some other := by
  simp only [better, if_neg front, if_neg nearer]

/-- What is no number takes the place of every hit. -/
theorem better_of_isNaN (noNumber : other.distance.isNaN = true) (answer : Option Candidate) :
    better answer other = some other := by
  have front : ¬other.distance ≤ 0 := Single.not_le_of_isNaN_left noNumber
  cases answer with
  | none => exact better_of_none front
  | some best => exact better_of_not_beyond front (Single.not_le_of_isNaN_right noNumber)

/-! ### The first nearest one -/

/-- The candidate is in front of the origin, nearer than those that are before it
    and in front of the origin, and no farther than those behind it. -/
def Nearest (best : Candidate) (candidates : List Candidate) : Prop :=
  0 < best.distance ∧ ∃ before behind, candidates = before ++ best :: behind ∧
    (∀ other ∈ before, 0 < other.distance → best.distance < other.distance) ∧
    ∀ other ∈ behind, 0 < other.distance → best.distance ≤ other.distance

variable {candidates : List Candidate}

theorem nearest_append_self (front : 0 < other.distance)
    (others : ∀ earlier ∈ candidates, ¬0 < earlier.distance) :
    other.Nearest (candidates ++ [other]) := by
  refine ⟨front, candidates, [], rfl, ?_, by simp⟩
  intro earlier member front
  exact absurd front (others earlier member)

theorem Nearest.append (nearest : best.Nearest candidates)
    (beyond : 0 < other.distance → best.distance ≤ other.distance) :
    best.Nearest (candidates ++ [other]) := by
  obtain ⟨front, before, behind, rfl, nearer, noFarther⟩ := nearest
  exact ⟨front, before, behind ++ [other], by simp, nearer,
    List.forall_mem_append.2 ⟨noFarther, List.forall_mem_singleton.2 beyond⟩⟩

theorem Nearest.replace (nearest : best.Nearest candidates) (front : 0 < other.distance)
    (nearer : other.distance < best.distance) : other.Nearest (candidates ++ [other]) := by
  obtain ⟨-, before, behind, rfl, isNearer, noFarther⟩ := nearest
  refine ⟨front, before ++ best :: behind, [], rfl, ?_, by simp⟩
  intro earlier member inFront
  rcases List.mem_append.1 member with member | member
  · exact Single.lt_of_lt_of_le nearer (Single.le_of_lt (isNearer earlier member inFront))
  · rcases List.mem_cons.1 member with rfl | member
    · exact nearer
    · exact Single.lt_of_lt_of_le nearer (noFarther earlier member inFront)

/-! ### All candidates -/

/-- How an answer comes from the candidates behind the last one whose distance is no
    number: it is the first nearest of them, or that last one itself when none of
    them is in front of the origin. -/
structure Outcome (candidates : List Candidate) (answer : Option Candidate)
    (earlier later : List Candidate) : Prop where
  split : candidates = earlier ++ later
  broken : ∀ last ∈ earlier.getLast?, last.distance.isNaN = true
  numbers : ∀ other ∈ later, other.distance.isNaN = false
  settled : (∃ best, best.Nearest later ∧ answer = some best) ∨
    (∀ other ∈ later, ¬0 < other.distance) ∧ answer = earlier.getLast?

namespace Outcome

variable {answer : Option Candidate} {earlier later : List Candidate}

theorem of_isNaN (noNumber : other.distance.isNaN = true) :
    Outcome (candidates ++ [other]) (better answer other) (candidates ++ [other]) [] where
  split := by simp
  broken := by simpa using noNumber
  numbers := by simp
  settled := .inr ⟨by simp, by simp [better_of_isNaN noNumber]⟩

theorem append_number (outcome : Outcome candidates answer earlier later)
    (number : other.distance.isNaN = false) :
    Outcome (candidates ++ [other]) (better answer other) earlier (later ++ [other]) := by
  refine ⟨by simp [outcome.split], outcome.broken, ?_, ?_⟩
  · exact List.forall_mem_append.2 ⟨outcome.numbers, List.forall_mem_singleton.2 number⟩
  by_cases behind : other.distance ≤ 0
  · have notInFront : ¬0 < other.distance := fun front => Single.not_le_of_lt front behind
    rw [better_of_behind behind]
    rcases outcome.settled with ⟨best, nearest, same⟩ | ⟨noneInFront, same⟩
    · exact .inl ⟨best, nearest.append fun front => absurd front notInFront, same⟩
    · refine .inr ⟨?_, same⟩
      exact List.forall_mem_append.2 ⟨noneInFront, List.forall_mem_singleton.2 notInFront⟩
  · have front : 0 < other.distance := Single.lt_of_not_le (by decide) number behind
    left
    rcases outcome.settled with ⟨best, nearest, rfl⟩ | ⟨noneInFront, rfl⟩
    · by_cases beyond : best.distance ≤ other.distance
      · exact ⟨best, nearest.append fun _ => beyond, better_of_beyond behind beyond⟩
      · have nearer := Single.lt_of_not_le number (Single.number_of_lt nearest.1).2 beyond
        exact ⟨other, nearest.replace front nearer, better_of_not_beyond behind beyond⟩
    · refine ⟨other, nearest_append_self front noneInFront, ?_⟩
      cases last : earlier.getLast? with
      | none => exact better_of_none behind
      | some broken =>
        have noNumber := outcome.broken broken last
        exact better_of_not_beyond behind (Single.not_le_of_isNaN_left noNumber)

end Outcome

theorem exists_outcome (candidates : List Candidate) :
    ∃ earlier later, Outcome candidates (candidates.foldl better none) earlier later := by
  induction candidates using List.reverseRecOn with
  | nil => exact ⟨[], [], rfl, by simp, by simp, .inr ⟨by simp, rfl⟩⟩
  | append_singleton candidates other ih =>
    obtain ⟨earlier, later, outcome⟩ := ih
    rw [List.foldl_append, List.foldl_cons, List.foldl_nil]
    cases number : other.distance.isNaN with
    | true => exact ⟨_, _, .of_isNaN number⟩
    | false => exact ⟨_, _, outcome.append_number number⟩

end Candidate

/-! ### Picking -/

namespace SceneGraph

/-- Where a ray meets the boxes and balls of a scene, in the order of the walk. -/
def candidates (graph : SceneGraph) (ray : Ray) (viewer : Vec3) : List Candidate :=
  (graph.targets viewer).filterMap (·.candidate? ray)

theorem pickRay_eq (graph : SceneGraph) (ray : Ray) (viewer : Vec3) :
    graph.pickRay ray viewer =
      ((graph.candidates ray viewer).foldl Candidate.better none).map (·.hit) := rfl

/-- Where all distances are numbers and one of them is positive, the first nearest
    candidate is picked. -/
theorem pickRay_of_numbers {graph : SceneGraph} {ray : Ray} {viewer : Vec3}
    (numbers : ∀ one ∈ graph.candidates ray viewer, one.distance.isNaN = false)
    (front : ∃ one ∈ graph.candidates ray viewer, 0 < one.distance) :
    ∃ best : Candidate, best.Nearest (graph.candidates ray viewer) ∧
      graph.pickRay ray viewer = some best.hit := by
  obtain ⟨earlier, later, outcome⟩ := Candidate.exists_outcome (graph.candidates ray viewer)
  have noneBroken : earlier = [] := by
    rw [← List.getLast?_eq_none_iff, Option.eq_none_iff_forall_not_mem]
    intro last isLast
    have member : last ∈ graph.candidates ray viewer := by
      rw [outcome.split]
      exact List.mem_append_left _ (List.mem_of_mem_getLast? isLast)
    have broken := outcome.broken last isLast
    rw [numbers last member] at broken
    cases broken
  obtain rfl := noneBroken
  have all : graph.candidates ray viewer = later := outcome.split
  rcases outcome.settled with ⟨best, nearest, same⟩ | ⟨noneInFront, -⟩
  · refine ⟨best, all ▸ nearest, ?_⟩
    rw [pickRay_eq, same]
    rfl
  · obtain ⟨one, member, inFront⟩ := front
    exact absurd inFront (noneInFront one (all ▸ member))

/-- What is picked is decided behind the last candidate whose distance is no number:
    the first nearest candidate there, or that last one itself when none there is in
    front of the origin. -/
theorem pickRay_nearest_since_no_number (graph : SceneGraph) (ray : Ray) (viewer : Vec3) :
    ∃ earlier later, graph.candidates ray viewer = earlier ++ later ∧
      (∀ last ∈ earlier.getLast?, last.distance.isNaN = true) ∧
      (∀ one ∈ later, one.distance.isNaN = false) ∧
      ((∃ best : Candidate, best.Nearest later ∧ graph.pickRay ray viewer = some best.hit) ∨
        (∀ one ∈ later, ¬0 < one.distance) ∧
          graph.pickRay ray viewer = earlier.getLast?.map (·.hit)) := by
  obtain ⟨earlier, later, outcome⟩ := Candidate.exists_outcome (graph.candidates ray viewer)
  refine ⟨earlier, later, outcome.split, outcome.broken, outcome.numbers, ?_⟩
  rw [pickRay_eq]
  rcases outcome.settled with ⟨best, nearest, same⟩ | ⟨noneInFront, same⟩
  · exact .inl ⟨best, nearest, by rw [same]; rfl⟩
  · exact .inr ⟨noneInFront, by rw [same]⟩

/-- A box, and one so large that its matrix cannot be undone in single precision. -/
def smallAndHugeBox : SceneGraph :=
  { (((empty.insert { kind := .cube {} }).insert
      { kind := .transform { scaleFactor := ⟨1e20, 1e20, 1e20⟩ } }).insert
      { kind := .cube {} }).insert
      { kind := .group .group, children := [⟨0⟩, ⟨1⟩, ⟨2⟩] } with root := some ⟨3⟩ }

/-- The small box is met at nine units, and the huge one is picked. -/
theorem pickRay_smallAndHugeBox :
    let ray : Ray := ⟨⟨0, 0, 10⟩, ⟨0, 0, -1⟩⟩
    (∃ one ∈ smallAndHugeBox.candidates ray .zero, one.target.node = ⟨0⟩ ∧ one.distance = 9) ∧
      (smallAndHugeBox.pickRay ray .zero).map (fun hit => (hit.node, hit.distance.isNaN)) =
        some (⟨2⟩, true) := by
  decide +kernel

end SceneGraph

end VrmlWorld
