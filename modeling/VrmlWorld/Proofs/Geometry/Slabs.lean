/-
  VrmlWorld/Proofs/Geometry/Slabs.lean
  ====================================
  **Narrowing by slabs finds where a ray enters a box, or leaves it.**

  A box of any number of axes is met by narrowing the parameters of a ray, axis by
  axis. In exact arithmetic the parameters that are left are those at which the ray is
  between the planes of every axis so far, and their ends are met on such planes
  (`Narrowed`). So the answer tells whether the ray meets the closed box ahead of its
  origin, and where it first comes to the surface of it (`meet?_of_box`).
-/
import Mathlib.Algebra.Order.Field.Basic
import Mathlib.Algebra.Order.Ring.Rat
import Mathlib.Algebra.Field.Rat
import Mathlib.Data.Fin.VecNotation
import Mathlib.Data.List.OfFn
import Mathlib.Order.Interval.Set.Basic
import Mathlib.Order.WithBot
import VrmlWorld.Geometry.Ray

namespace VrmlWorld.Geometry

/-! ### Exact arithmetic -/

/-- A parameter, or what is before or after all of them. -/
abbrev Parameter (K : Type) : Type := WithBot (WithTop K)

def Parameter.of {K : Type} (s : K) : Parameter K := ((s : WithTop K) : WithBot (WithTop K))

/-- Narrowing in an ordered field. -/
def exactSlabs (K : Type) [Field K] [LinearOrder K] : SlabArithmetic K (Parameter K) where
  start := ⊥
  finish := ⊤
  zero := .of 0
  isZero direction := direction = 0
  coordinateBelow a b := a < b
  reach plane origin direction := .of ((plane - origin) / direction)
  lesser := min
  greater := max
  below a b := a < b
  atMost a b := a ≤ b

namespace Parameter

variable {K : Type} [LinearOrder K] {a b : K}

@[simp] theorem of_le_of : of a ≤ of b ↔ a ≤ b := WithBot.coe_le_coe.trans WithTop.coe_le_coe

@[simp] theorem of_lt_of : of a < of b ↔ a < b := WithBot.coe_lt_coe.trans WithTop.coe_lt_coe

theorem monotone_of : Monotone (of : K → Parameter K) := fun _ _ => of_le_of.2

@[simp] theorem min_of : min (of a) (of b) = of (min a b) := (monotone_of.map_min).symm

@[simp] theorem max_of : max (of a) (of b) = of (max a b) := (monotone_of.map_max).symm

end Parameter

/-! ### Slabs -/

/-- The slabs of a ray and a box, whatever the number of axes. -/
def slabsOf {K : Type} {axes : ℕ} (origin direction low high : Fin axes → K) : List (Slab K) :=
  List.ofFn fun axis => ⟨origin axis, direction axis, low axis, high axis⟩

def Vec3.coordinates (v : Vec3) : Fin 3 → Float32 := ![v.x, v.y, v.z]

theorem Box.slabs_eq (box : Box) (ray : Ray) :
    box.slabs ray = slabsOf ray.origin.coordinates ray.direction.coordinates box.min.coordinates
      box.max.coordinates := by
  simp [Box.slabs, slabsOf, Vec3.coordinates]

namespace Slab

variable {K : Type} [Field K]

/-- The coordinate of the ray at a parameter. -/
def coordinateAt (slab : Slab K) (s : K) : K := slab.origin + slab.direction * s

/-- Whether the ray is on one of the planes at a parameter. -/
def Touches (slab : Slab K) (s : K) : Prop :=
  slab.coordinateAt s = slab.low ∨ slab.coordinateAt s = slab.high

theorem coordinateAt_reach {slab : Slab K} (moving : slab.direction ≠ 0) (plane : K) :
    slab.coordinateAt ((plane - slab.origin) / slab.direction) = plane := by
  rw [coordinateAt, mul_div_cancel₀ _ moving]
  exact add_sub_cancel _ _

variable [LinearOrder K]

/-- Whether the ray is between the planes at a parameter, or on one of them. -/
def Holds (slab : Slab K) (s : K) : Prop :=
  slab.low ≤ slab.coordinateAt s ∧ slab.coordinateAt s ≤ slab.high

/-- Where the ray reaches the nearer one of the planes. -/
def nearer (slab : Slab K) : K :=
  min ((slab.low - slab.origin) / slab.direction) ((slab.high - slab.origin) / slab.direction)

/-- Where the ray reaches the farther one of the planes. -/
def farther (slab : Slab K) : K :=
  max ((slab.low - slab.origin) / slab.direction) ((slab.high - slab.origin) / slab.direction)

variable {slab : Slab K} {s : K}

theorem touches_nearer (moving : slab.direction ≠ 0) : slab.Touches slab.nearer := by
  rcases min_choice ((slab.low - slab.origin) / slab.direction)
    ((slab.high - slab.origin) / slab.direction) with first | second
  · left
    rw [nearer, first, coordinateAt_reach moving]
  · right
    rw [nearer, second, coordinateAt_reach moving]

theorem touches_farther (moving : slab.direction ≠ 0) : slab.Touches slab.farther := by
  rcases max_choice ((slab.low - slab.origin) / slab.direction)
    ((slab.high - slab.origin) / slab.direction) with first | second
  · left
    rw [farther, first, coordinateAt_reach moving]
  · right
    rw [farther, second, coordinateAt_reach moving]

/-- A ray along the planes stays where it is. -/
theorem holds_iff_of_still (still : slab.direction = 0) :
    slab.Holds s ↔ slab.low ≤ slab.origin ∧ slab.origin ≤ slab.high := by
  rw [Holds, coordinateAt, still, zero_mul, add_zero]

variable [IsStrictOrderedRing K]

theorem holds_iff (moving : slab.direction ≠ 0) (ordered : slab.low ≤ slab.high) :
    slab.Holds s ↔ slab.nearer ≤ s ∧ s ≤ slab.farther := by
  have shifted : slab.low - slab.origin ≤ slab.high - slab.origin := sub_le_sub_right ordered _
  have above : slab.low ≤ slab.coordinateAt s ↔ slab.low - slab.origin ≤ slab.direction * s :=
    sub_le_iff_le_add'.symm
  have below : slab.coordinateAt s ≤ slab.high ↔ slab.direction * s ≤ slab.high - slab.origin :=
    le_sub_iff_add_le'.symm
  rw [Holds, above, below, nearer, farther]
  rcases lt_or_gt_of_ne moving with backward | forward
  · have swapped := div_le_div_of_nonpos_of_le backward.le shifted
    rw [min_eq_right swapped, max_eq_left swapped, div_le_iff_of_neg' backward,
      le_div_iff_of_neg' backward, and_comm]
  · have kept := div_le_div_of_nonneg_right shifted forward.le
    rw [min_eq_left kept, max_eq_right kept, div_le_iff₀' forward, le_div_iff₀' forward]

end Slab

/-- The point of a ray at a parameter. -/
def pointOf {K : Type} [Field K] {axes : ℕ} (origin direction : Fin axes → K) (s : K) :
    Fin axes → K :=
  fun axis => origin axis + direction axis * s

theorem forall_holds_iff {K : Type} [Field K] [LinearOrder K] {axes : ℕ}
    {origin direction low high : Fin axes → K} (s : K) :
    (∀ slab ∈ slabsOf origin direction low high, slab.Holds s) ↔
      pointOf origin direction s ∈ Set.Icc low high := by
  rw [slabsOf, List.forall_mem_ofFn_iff, Set.mem_Icc, Pi.le_def, Pi.le_def, ← forall_and]
  rfl

/-! ### What is left -/

section Bounds

variable {K : Type} [Field K]

/-- An end of what some slabs have left. It is met on a plane of one of them, unless the
    ray is along them all and it is still the one that narrowing began with. -/
inductive Bound (slabs : List (Slab K)) (unbounded : Parameter K) : Parameter K → Prop where
  | still (along : ∀ slab ∈ slabs, slab.direction = 0) : Bound slabs unbounded unbounded
  | plane {t : K} {slab : Slab K} (own : slab ∈ slabs) (touches : slab.Touches t) :
      Bound slabs unbounded (.of t)

namespace Bound

variable {slabs : List (Slab K)} {slab : Slab K} {unbounded range : Parameter K}

theorem append_still (bound : Bound slabs unbounded range) (still : slab.direction = 0) :
    Bound (slabs ++ [slab]) unbounded range := by
  rcases bound with along | ⟨own, touches⟩
  · refine .still fun other member => ?_
    rcases List.mem_append.1 member with before | last
    · exact along other before
    · rwa [List.mem_singleton.1 last]
  · exact .plane (List.mem_append_left _ own) touches

theorem exists_plane (bound : Bound slabs unbounded range)
    (moving : ∃ slab ∈ slabs, slab.direction ≠ 0) :
    ∃ t, range = .of t ∧ ∃ slab ∈ slabs, slab.Touches t := by
  rcases bound with along | ⟨own, touches⟩
  · obtain ⟨slab, member, moves⟩ := moving
    exact absurd (along slab member) moves
  · exact ⟨_, rfl, _, own, touches⟩

variable [LinearOrder K]

theorem append_nearer (bound : Bound slabs ⊥ range) (moving : slab.direction ≠ 0) :
    Bound (slabs ++ [slab]) ⊥ (max range (.of slab.nearer)) := by
  have own : Bound (slabs ++ [slab]) ⊥ (.of slab.nearer) :=
    .plane (List.mem_append_right _ List.mem_cons_self) (Slab.touches_nearer moving)
  rcases bound with along | @⟨t, _, member, touches⟩
  · rwa [max_bot_left]
  · rcases max_choice (Parameter.of t) (Parameter.of slab.nearer) with before | last
    · rw [before]
      exact .plane (List.mem_append_left _ member) touches
    · rwa [last]

theorem append_farther (bound : Bound slabs ⊤ range) (moving : slab.direction ≠ 0) :
    Bound (slabs ++ [slab]) ⊤ (min range (.of slab.farther)) := by
  have own : Bound (slabs ++ [slab]) ⊤ (.of slab.farther) :=
    .plane (List.mem_append_right _ List.mem_cons_self) (Slab.touches_farther moving)
  rcases bound with along | @⟨t, _, member, touches⟩
  · rwa [min_top_left]
  · rcases min_choice (Parameter.of t) (Parameter.of slab.farther) with before | last
    · rw [before]
      exact .plane (List.mem_append_left _ member) touches
    · rwa [last]

end Bound

end Bounds

variable {K : Type} [Field K] [LinearOrder K]

/-- What narrowing by some slabs has left: the parameters at which the ray is between
    the planes of them all. -/
structure Narrowed (slabs : List (Slab K)) (range : Parameter K × Parameter K) : Prop where
  inside : ∀ s : K, range.1 ≤ .of s ∧ .of s ≤ range.2 ↔ ∀ slab ∈ slabs, slab.Holds s
  enter : Bound slabs ⊥ range.1
  leave : Bound slabs ⊤ range.2

theorem narrowed_nil : Narrowed (K := K) [] (⊥, ⊤) where
  inside s := by simp
  enter := .still nofun
  leave := .still nofun

variable [IsStrictOrderedRing K]

/-- One slab leaves nothing, if the ray is never between its planes, or it leaves what
    it has in common with what there was. -/
theorem narrow_cases {slabs : List (Slab K)} {range : Parameter K × Parameter K}
    (narrowed : Narrowed slabs range) {slab : Slab K} (ordered : slab.low ≤ slab.high) :
    ((exactSlabs K).narrow range slab = none ∧ ∀ s, ¬ slab.Holds s) ∨
    ∃ range', (exactSlabs K).narrow range slab = some range' ∧ Narrowed (slabs ++ [slab]) range' := by
  have both (s : K) : (∀ other ∈ slabs ++ [slab], other.Holds s) ↔
      (range.1 ≤ .of s ∧ .of s ≤ range.2) ∧ slab.Holds s := by
    rw [narrowed.inside, List.forall_mem_append, List.forall_mem_singleton]
  by_cases still : slab.direction = 0
  · have narrow : (exactSlabs K).narrow range slab =
        if slab.origin < slab.low ∨ slab.high < slab.origin then none else some range := by
      simp [SlabArithmetic.narrow, exactSlabs, still]
    rw [narrow]
    by_cases beside : slab.origin < slab.low ∨ slab.high < slab.origin
    · left
      refine ⟨if_pos beside, fun s holds => ?_⟩
      obtain ⟨above, below⟩ := (Slab.holds_iff_of_still still).1 holds
      exact beside.elim (not_lt_of_ge above) (not_lt_of_ge below)
    · right
      obtain ⟨above, below⟩ := not_or.1 beside
      refine ⟨range, if_neg beside, fun s => ?_, narrowed.enter.append_still still,
        narrowed.leave.append_still still⟩
      have holds : slab.Holds s :=
        (Slab.holds_iff_of_still still).2 ⟨le_of_not_gt above, le_of_not_gt below⟩
      rw [both, and_iff_left holds]
  · right
    refine ⟨(max range.1 (.of slab.nearer), min range.2 (.of slab.farther)), ?_, fun s => ?_,
      narrowed.enter.append_nearer still, narrowed.leave.append_farther still⟩
    · simp [SlabArithmetic.narrow, exactSlabs, still, Slab.nearer, Slab.farther]
    · rw [both, Slab.holds_iff still ordered, max_le_iff, le_min_iff, Parameter.of_le_of,
        Parameter.of_le_of]
      exact and_and_and_comm

/-- Narrowing by slab after slab leaves nothing only if the ray is never between the
    planes of them all. -/
theorem foldlM_narrow_cases {before : List (Slab K)} {range : Parameter K × Parameter K}
    (narrowed : Narrowed before range) (slabs : List (Slab K))
    (ordered : ∀ slab ∈ slabs, slab.low ≤ slab.high) :
    (slabs.foldlM (exactSlabs K).narrow range = none ∧ ∀ s, ¬ ∀ slab ∈ slabs, slab.Holds s) ∨
    ∃ range', slabs.foldlM (exactSlabs K).narrow range = some range' ∧
      Narrowed (before ++ slabs) range' := by
  induction slabs generalizing before range with
  | nil =>
    right
    exact ⟨range, rfl, by rwa [List.append_nil]⟩
  | cons slab slabs ih =>
    obtain ⟨first, others⟩ := List.forall_mem_cons.1 ordered
    rcases narrow_cases narrowed first with ⟨none, never⟩ | ⟨range', narrow, narrowed'⟩
    · left
      refine ⟨by rw [List.foldlM_cons, none]; rfl, fun s all => ?_⟩
      exact never s (all slab List.mem_cons_self)
    · rcases ih narrowed' others with ⟨none, never⟩ | ⟨range'', narrows, narrowed''⟩
      · left
        refine ⟨by rw [List.foldlM_cons, narrow]; exact none, fun s all => ?_⟩
        exact never s fun other member => all other (List.mem_cons_of_mem slab member)
      · right
        refine ⟨range'', by rw [List.foldlM_cons, narrow]; exact narrows, ?_⟩
        rwa [List.append_assoc, List.singleton_append] at narrowed''

/-! ### Boxes -/

/-- Where a ray enters the box of some slabs, or leaves it. -/
theorem meet?_cases {slabs : List (Slab K)} (ordered : ∀ slab ∈ slabs, slab.low ≤ slab.high)
    (moving : ∃ slab ∈ slabs, slab.direction ≠ 0) :
    ((exactSlabs K).meet? slabs = none ∧ ∀ s, 0 < s → ¬ ∀ slab ∈ slabs, slab.Holds s) ∨
    ∃ t, (exactSlabs K).meet? slabs = some (.of t) ∧ 0 < t ∧ (∀ slab ∈ slabs, slab.Holds t) ∧
      (∃ slab ∈ slabs, slab.Touches t) ∧
      ((∀ s < t, ¬ ∀ slab ∈ slabs, slab.Holds s) ∨
        ∀ s, 0 < s → s ≤ t → ∀ slab ∈ slabs, slab.Holds s) := by
  have meet : (exactSlabs K).meet? slabs =
      (slabs.foldlM (exactSlabs K).narrow (⊥, ⊤)).bind fun range =>
        if range.2 < range.1 ∨ range.2 ≤ .of 0 then none
        else some (if .of 0 < range.1 then range.1 else range.2) := by
    simp only [SlabArithmetic.meet?, exactSlabs, Bool.or_eq_true, decide_eq_true_eq]
    rfl
  rcases foldlM_narrow_cases narrowed_nil slabs ordered with ⟨none, never⟩ | ⟨range, left, narrowed⟩
  · left
    exact ⟨by rw [meet, none]; rfl, fun s _ => never s⟩
  · rw [List.nil_append] at narrowed
    obtain ⟨enter, leave⟩ := range
    obtain ⟨t, rfl, touches⟩ := narrowed.enter.exists_plane moving
    obtain ⟨t', rfl, touches'⟩ := narrowed.leave.exists_plane moving
    have inside (s : K) : t ≤ s ∧ s ≤ t' ↔ ∀ slab ∈ slabs, slab.Holds s := by
      rw [← narrowed.inside, Parameter.of_le_of, Parameter.of_le_of]
    simp only [left, Option.bind_some, Parameter.of_lt_of, Parameter.of_le_of] at meet
    by_cases empty : t' < t ∨ t' ≤ 0
    · left
      refine ⟨by rw [meet, if_pos empty], fun s ahead holds => ?_⟩
      obtain ⟨after, before⟩ := (inside s).2 holds
      rcases empty with crossed | behind
      · exact absurd (after.trans before) (not_le_of_gt crossed)
      · exact absurd (ahead.trans_le before) (not_lt_of_ge behind)
    · right
      obtain ⟨kept, ahead⟩ := not_or.1 empty
      have kept : t ≤ t' := le_of_not_gt kept
      have ahead : 0 < t' := lt_of_not_ge ahead
      by_cases outside : 0 < t
      · refine ⟨t, by rw [meet, if_neg empty, if_pos outside], outside,
          (inside t).1 ⟨le_rfl, kept⟩, touches, .inl fun s sooner holds => ?_⟩
        exact absurd ((inside s).2 holds).1 (not_le_of_gt sooner)
      · refine ⟨t', by rw [meet, if_neg empty, if_neg outside], ahead,
          (inside t').1 ⟨kept, le_rfl⟩, touches', .inr fun s later sooner => ?_⟩
        exact (inside s).1 ⟨(le_of_not_gt outside).trans later.le, sooner⟩

/-- Boxes are met by narrowing, here in exact arithmetic. There is an answer exactly if
    the ray is in the closed box at some parameter ahead of its origin. The answer is
    such a parameter, at which the ray is on the surface: there it enters the box, or it
    has been in the box from its origin and leaves it. -/
theorem meet?_of_box {axes : ℕ} {origin direction low high : Fin axes → K}
    (ordered : low ≤ high) (moving : direction ≠ 0) :
    (∀ (box : Box) (ray : Ray), box.meet? ray =
      singleSlabs.meet? (slabsOf ray.origin.coordinates ray.direction.coordinates
        box.min.coordinates box.max.coordinates)) ∧
    ((∃ answer, (exactSlabs K).meet? (slabsOf origin direction low high) = some answer) ↔
      ∃ s, 0 < s ∧ pointOf origin direction s ∈ Set.Icc low high) ∧
    ∀ answer, (exactSlabs K).meet? (slabsOf origin direction low high) = some answer →
      ∃ t, answer = .of t ∧ 0 < t ∧ pointOf origin direction t ∈ Set.Icc low high ∧
        (∃ axis, pointOf origin direction t axis = low axis ∨
          pointOf origin direction t axis = high axis) ∧
        ((∀ s < t, pointOf origin direction s ∉ Set.Icc low high) ∨
          ∀ s, 0 < s → s ≤ t → pointOf origin direction s ∈ Set.Icc low high) := by
  have slabsOrdered : ∀ slab ∈ slabsOf origin direction low high, slab.low ≤ slab.high :=
    List.forall_mem_ofFn_iff.2 ordered
  have slabMoving : ∃ slab ∈ slabsOf origin direction low high, slab.direction ≠ 0 := by
    obtain ⟨axis, moves⟩ := Function.ne_iff.1 moving
    exact ⟨_, List.mem_ofFn.2 ⟨axis, rfl⟩, moves⟩
  refine ⟨fun box ray => by rw [Box.meet?, Box.slabs_eq], ?_⟩
  rcases meet?_cases slabsOrdered slabMoving with ⟨none, never⟩ |
    ⟨t, meet, ahead, holds, ⟨slab, own, touches⟩, onward⟩
  · simp only [forall_holds_iff] at never
    rw [none]
    constructor
    · constructor
      · rintro ⟨answer, absent⟩
        cases absent
      · rintro ⟨s, later, inBox⟩
        exact absurd inBox (never s later)
    · intro answer absent
      cases absent
  · simp only [forall_holds_iff] at holds onward
    rw [meet]
    constructor
    · exact iff_of_true ⟨_, rfl⟩ ⟨t, ahead, holds⟩
    · intro answer found
      obtain ⟨axis, rfl⟩ := List.mem_ofFn.1 own
      exact ⟨t, (Option.some.inj found).symm, ahead, holds, ⟨axis, touches⟩, onward⟩

/-- A ray along one face of a cube meets the cube. -/
theorem meet?_along_face :
    (![-1, -1, -1] : Fin 3 → ℚ) ≤ ![1, 1, 1] ∧ (![0, 0, -1] : Fin 3 → ℚ) ≠ 0 ∧
      ∃ answer, (exactSlabs ℚ).meet? (slabsOf ![0, 1, 5] ![0, 0, -1] ![-1, -1, -1] ![1, 1, 1]) =
        some answer := by
  have ordered : (![-1, -1, -1] : Fin 3 → ℚ) ≤ ![1, 1, 1] := by
    rw [Pi.le_def]
    decide
  have moving : (![0, 0, -1] : Fin 3 → ℚ) ≠ 0 := Function.ne_iff.2 ⟨2, by decide⟩
  refine ⟨ordered, moving, (meet?_of_box ordered moving).2.1.2 ⟨5, by decide, ?_⟩⟩
  rw [Set.mem_Icc, Pi.le_def, Pi.le_def]
  decide +kernel

end VrmlWorld.Geometry
