/-
  VrmlWorld/Proofs/Number/Order.lean
  ==================================
  **How single-precision numbers compare.**

  Every value but the one that is no number has a place in a linear order: by
  sign and size first, then by exponent and mantissa. A comparison of values is
  one of places, and fails where there is none (`lt_iff`, `le_iff`). So the laws
  of a linear order hold of numbers, and nothing compares with what is none.
-/
import Mathlib.Algebra.Order.Ring.Int
import Mathlib.Data.Prod.Lex
import VrmlWorld.Geometry.Vector

namespace VrmlWorld.Number.Single

open Float.Model

/-! ### Places -/

/-- Sign and size, exponent, and mantissa. -/
abbrev Place : Type := Lex (Int × Lex (Int × Int))

def Place.of (size exponent mantissa : Int) : Place := toLex (size, toLex (exponent, mantissa))

/-- The place of an unpacked value, if it is a number. Both zeros have one. -/
def placeOf? : UnpackedFloat → Option Place
  | .notANumber => none
  | .infinity .negative => some (.of (-2) 0 0)
  | .finite .negative mantissa exponent _ => some (.of (-1) (-exponent) (-mantissa))
  | .zero _ => some (.of 0 0 0)
  | .finite .positive mantissa exponent _ => some (.of 1 exponent mantissa)
  | .infinity .positive => some (.of 2 0 0)

theorem Place.compare_of (s e m s' e' m' : Int) :
    compare (Place.of s e m) (Place.of s' e' m') =
      (compare s s').then ((compare e e').then (compare m m')) := by
  simp only [Place.of, Prod.Lex.compare_def, compareLex, compareOn, ofLex_toLex]

theorem compare_neg (a b : Int) : compare (-a) (-b) = (compare a b).swap := by
  rcases lt_trichotomy a b with lt | rfl | gt
  · rw [compare_lt_iff_lt.2 lt, compare_gt_iff_gt.2 (by omega)]
    rfl
  · simp
  · rw [compare_gt_iff_gt.2 gt, compare_lt_iff_lt.2 (by omega)]
    rfl

theorem compare_natCast (a b : Nat) : compare (a : Int) b = compare a b := by
  rcases lt_trichotomy a b with lt | rfl | gt
  · rw [compare_lt_iff_lt.2 lt, compare_lt_iff_lt.2 (by omega)]
  · simp
  · rw [compare_gt_iff_gt.2 gt, compare_gt_iff_gt.2 (by omega)]

theorem compare_eq (a b : UnpackedFloat) :
    a.compare b = (placeOf? a).bind fun p => (placeOf? b).map (compare p) := by
  rcases a with (_ | _) | _ | _ | ⟨_ | _, m, e, _⟩ <;>
    rcases b with (_ | _) | _ | _ | ⟨_ | _, m', e', _⟩
  case finite.negative.finite.negative =>
    show some ((compare e e').then (compare m m')).swap =
      some (compare (Place.of (-1) (-e) (-m)) (Place.of (-1) (-e') (-m')))
    rw [Place.compare_of, compare_neg e, compare_neg m, compare_natCast, Ordering.swap_then]
    rfl
  case finite.positive.finite.positive =>
    show some ((compare e e').then (compare m m')) =
      some (compare (Place.of 1 e m) (Place.of 1 e' m'))
    rw [Place.compare_of, compare_natCast]
    rfl
  all_goals rfl

/-! ### Comparisons -/

/-- The place of a value, if it is a number. -/
def place? (value : Float32) : Option Place := placeOf? value.toModel.unpack

variable {a b c : Float32}

theorem isNaN_iff : a.isNaN = true ↔ place? a = none := by
  show UnpackedFloat.isNaN a.toModel.unpack = true ↔ placeOf? a.toModel.unpack = none
  rcases a.toModel.unpack with (_ | _) | _ | _ | ⟨_ | _, _, _, _⟩
  case notANumber => exact iff_of_true rfl rfl
  all_goals exact iff_of_false Bool.false_ne_true (Option.some_ne_none _)

theorem exists_place (number : a.isNaN = false) : ∃ p, place? a = some p := by
  rw [← Option.ne_none_iff_exists']
  intro missing
  rw [isNaN_iff.2 missing] at number
  cases number

theorem lt_iff : a < b ↔ ∃ p q, place? a = some p ∧ place? b = some q ∧ p < q := by
  have unfolded : a < b ↔ (a.toModel.unpack.compare b.toModel.unpack == some .lt) = true := by
    show Float32.lt a b = true ↔ _
    rw [Float32.lt, decide_eq_true_iff]
    rfl
  rw [unfolded, compare_eq, beq_iff_eq]
  show ((place? a).bind fun p => (place? b).map (compare p)) = some .lt ↔ _
  cases place? a <;> cases place? b <;> simp [compare_lt_iff_lt]

theorem le_iff : a ≤ b ↔ ∃ p q, place? a = some p ∧ place? b = some q ∧ p ≤ q := by
  have unfolded : a ≤ b ↔ (a.toModel.unpack.compare b.toModel.unpack).any (·.isLE) = true := by
    show Float32.le a b = true ↔ _
    rw [Float32.le, decide_eq_true_iff]
    rfl
  rw [unfolded, compare_eq]
  show ((place? a).bind fun p => (place? b).map (compare p)).any (·.isLE) = true ↔ _
  cases place? a <;> cases place? b <;> simp [← compare_le_iff_le, Ordering.isLE_iff_ne_gt]

/-! ### Laws -/

theorem number_of_le (le : a ≤ b) : a.isNaN = false ∧ b.isNaN = false := by
  obtain ⟨p, q, isPlace, isPlace', -⟩ := le_iff.1 le
  constructor
  · rw [← Bool.not_eq_true, isNaN_iff, isPlace]
    simp
  · rw [← Bool.not_eq_true, isNaN_iff, isPlace']
    simp

theorem le_of_lt (lt : a < b) : a ≤ b := by
  obtain ⟨p, q, isPlace, isPlace', lt⟩ := lt_iff.1 lt
  exact le_iff.2 ⟨p, q, isPlace, isPlace', lt.le⟩

theorem number_of_lt (lt : a < b) : a.isNaN = false ∧ b.isNaN = false := number_of_le (le_of_lt lt)

theorem not_le_of_isNaN_left (noNumber : a.isNaN = true) : ¬a ≤ b := by
  intro le
  rw [(number_of_le le).1] at noNumber
  cases noNumber

theorem not_le_of_isNaN_right (noNumber : b.isNaN = true) : ¬a ≤ b := by
  intro le
  rw [(number_of_le le).2] at noNumber
  cases noNumber

theorem le_of_not_lt (number : a.isNaN = false) (number' : b.isNaN = false) (failed : ¬b < a) :
    a ≤ b := by
  obtain ⟨p, isPlace⟩ := exists_place number
  obtain ⟨q, isPlace'⟩ := exists_place number'
  refine le_iff.2 ⟨p, q, isPlace, isPlace', not_lt.1 ?_⟩
  exact fun lt => failed (lt_iff.2 ⟨q, p, isPlace', isPlace, lt⟩)

theorem lt_of_not_le (number : a.isNaN = false) (number' : b.isNaN = false) (failed : ¬b ≤ a) :
    a < b := by
  obtain ⟨p, isPlace⟩ := exists_place number
  obtain ⟨q, isPlace'⟩ := exists_place number'
  refine lt_iff.2 ⟨p, q, isPlace, isPlace', not_le.1 ?_⟩
  exact fun le => failed (le_iff.2 ⟨q, p, isPlace', isPlace, le⟩)

theorem not_le_of_lt (lt : a < b) : ¬b ≤ a := by
  obtain ⟨p, q, isPlace, isPlace', lt⟩ := lt_iff.1 lt
  intro le
  obtain ⟨q', p', same', same, le⟩ := le_iff.1 le
  cases isPlace.symm.trans same
  cases isPlace'.symm.trans same'
  exact lt.not_ge le

theorem lt_of_lt_of_le (lt : a < b) (le : b ≤ c) : a < c := by
  obtain ⟨p, q, isPlace, isPlace', lt⟩ := lt_iff.1 lt
  obtain ⟨q', r, same, isPlace'', le⟩ := le_iff.1 le
  cases isPlace'.symm.trans same
  exact lt_iff.2 ⟨p, r, isPlace, isPlace'', lt.trans_le le⟩

theorem lt_of_le_of_lt (le : a ≤ b) (lt : b < c) : a < c := by
  obtain ⟨p, q, isPlace, isPlace', le⟩ := le_iff.1 le
  obtain ⟨q', r, same, isPlace'', lt⟩ := lt_iff.1 lt
  cases isPlace'.symm.trans same
  exact lt_iff.2 ⟨p, r, isPlace, isPlace'', le.trans_lt lt⟩

end VrmlWorld.Number.Single
