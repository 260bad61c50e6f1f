/-
  VrmlWorld/Number/Decimal.lean
  =============================
  **Decimal digits of binary numbers.**

  Two selections of digits, both in exact integer arithmetic: `nearest` takes a
  given number of significant digits, with ties to the even digit, and
  `shortest` takes the fewest digits that identify the number among its
  neighbours in its layout, with ties away from zero. Two texts of a selection:
  scientific and positional.
-/
import VrmlWorld.Number.Binary

namespace VrmlWorld.Number

/-- The number `digits · 10 ^ exponent`. -/
structure Decimal where
  digits : Nat
  exponent : Int
deriving DecidableEq, Repr

namespace Decimal

/-! ### Places -/

/-- How many decimal digits a natural number is written with. -/
def width (n : Nat) : Nat := (Nat.toDigits 10 n).length

/-- The two terms of `above / below`, divided by `10 ^ unit`. -/
def inUnits (above below : Nat) (unit : Int) : Nat × Nat :=
  if 0 ≤ unit then (above, below * Nat.pow 10 unit.toNat)
  else (above * Nat.pow 10 (-unit).toNat, below)

/-- The power of ten of the leading digit of `above / below`. The widths of
    both terms leave two candidates, and one comparison decides. -/
def leadingPlace (above below : Nat) : Int :=
  let place : Int := (width above : Int) - width below
  let (a, b) := inUnits above below place
  if b ≤ a then place else place - 1

/-! ### Nearest -/

/-- The quotient rounded to the nearest natural number, a half to the even one. -/
def divideToEven (above below : Nat) : Nat :=
  let q := above / below
  let twice := 2 * (above % below)
  if twice < below then q
  else if below < twice then q + 1
  else if q % 2 = 0 then q else q + 1

/-- The decimal of `count` significant digits nearest to `above / below`. -/
def nearest (count above below : Nat) : Decimal :=
  let unit := leadingPlace above below - (count - 1)
  let (a, b) := inUnits above below unit
  ⟨divideToEven a b, unit⟩

/-! ### Shortest -/

/-- The decimal of `count` significant digits that lies within the rounding
    interval of `significand · 2 ^ exponent`: the nearer one where both
    neighbours do, and the larger one if they are equally near. The interval
    reaches half way to the next numbers of the layout, and its ends belong to
    it when the significand is even. -/
def shortestOf? (layout : BinaryLayout) (count significand : Nat) (exponent : Int) :
    Option Decimal :=
  let belowGap := if significand = Nat.pow 2 layout.fractionBits ∧ layout.leastExponent < exponent
    then 1 else 2
  let (quarter, whole) := Binary.quotient 1 (exponent - 2)
  let unit := leadingPlace (4 * significand * quarter) whole - (count - 1)
  let (step, one) := inUnits quarter whole unit
  let value := 4 * significand * step
  let low := (4 * significand - belowGap) * step
  let high := (4 * significand + 2) * step
  let closed := significand % 2 = 0
  let inside (n : Nat) : Bool :=
    if closed then low ≤ n * one && n * one ≤ high else low < n * one && n * one < high
  let floor := value / one
  match inside floor, inside (floor + 1) with
  | true, true => if 2 * (value % one) < one then some ⟨floor, unit⟩ else some ⟨floor + 1, unit⟩
  | true, false => some ⟨floor, unit⟩
  | false, true => some ⟨floor + 1, unit⟩
  | false, false => none

/-- The fewest digits that read back to `significand · 2 ^ exponent`; seventeen
    are enough for every layout used here. -/
def shortest (layout : BinaryLayout) (significand : Nat) (exponent : Int) : Decimal :=
  if significand = 0 then ⟨0, 0⟩
  else
    match (List.range 17).findSome? fun n => shortestOf? layout (n + 1) significand exponent with
    | some decimal => decimal
    | none =>
        let (above, below) := Binary.quotient significand exponent
        nearest 17 above below

/-! ### Texts -/

/-- The same number without trailing zeros among its digits. -/
def trim (decimal : Decimal) : Decimal :=
  if h : decimal.digits ≠ 0 ∧ decimal.digits % 10 = 0 then
    trim ⟨decimal.digits / 10, decimal.exponent + 1⟩
  else decimal
termination_by decimal.digits
decreasing_by exact Nat.div_lt_self (Nat.pos_of_ne_zero h.1) (by decide)

def digitChars (n : Nat) : List Char := Nat.toDigits 10 n

/-- One leading digit, the others after a point, and the power of ten after
    an `e`. -/
def scientific (decimal : Decimal) : String :=
  let decimal := decimal.trim
  if decimal.digits = 0 then "0e0"
  else
    match digitChars decimal.digits with
    | [] => "0e0"
    | lead :: others =>
        let point := if others.isEmpty then [] else '.' :: others
        String.ofList (lead :: point) ++ "e" ++ toString (decimal.exponent + others.length)

/-- All digits around a point, without a power of ten; the point is left out
    when nothing stands behind it. -/
def positional (decimal : Decimal) : String :=
  let decimal := decimal.trim
  let chars := digitChars decimal.digits
  if decimal.digits = 0 then "0"
  else if 0 ≤ decimal.exponent then
    String.ofList (chars ++ List.replicate decimal.exponent.toNat '0')
  else
    let places := (-decimal.exponent).toNat
    if places < chars.length then
      String.ofList (chars.take (chars.length - places) ++ '.' :: chars.drop (chars.length - places))
    else
      String.ofList ('0' :: '.' :: (List.replicate (places - chars.length) '0' ++ chars))

end Decimal

/-! ### Texts of binary numbers -/

/-- A number in `count` significant digits, scientific; what is no finite
    number has its name. -/
def Binary.scientific (count : Nat) : Binary → String
  | nan => "NaN"
  | infinite negative => if negative then "-inf" else "inf"
  | finite negative significand exponent =>
      let (above, below) := quotient significand exponent
      let decimal := if significand = 0 then ⟨0, 0⟩ else Decimal.nearest count above below
      (if negative then "-" else "") ++ decimal.scientific

/-- A number in the fewest digits that identify it, positional; what is no
    finite number has its name. -/
def Binary.positional (layout : BinaryLayout) : Binary → String
  | nan => "NaN"
  | infinite negative => if negative then "-inf" else "inf"
  | finite negative significand exponent =>
      (if negative then "-" else "") ++ (Decimal.shortest layout significand exponent).positional

def singleText (x : Float32) : String := (Binary.ofSingle x).positional .single

def doubleText (x : Float) : String := (Binary.ofDouble x).positional .double

/-- The text of a number with a point in any case; names stay as they are. -/
def pointed (text : String) : String :=
  if text.toList.all fun c => c.isDigit || c == '-' then text ++ ".0" else text

end VrmlWorld.Number
