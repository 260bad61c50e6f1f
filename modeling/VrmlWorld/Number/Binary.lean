/-
  VrmlWorld/Number/Binary.lean
  ============================
  **Exact values of binary floating-point numbers.**

  A scene is computed in single precision, its numerals are read in double
  precision, and both are shown in decimal. Everything that has to be exact
  about such a number (its decimal digits, its integer part) starts from the
  number `± significand · 2 ^ exponent` that its bit pattern stands for. This
  file reads that number off the bits, for any interchange layout.
-/

namespace VrmlWorld.Number

/-! ### Layouts -/

/-- Widths of the fraction field and the exponent field of an interchange
    format; one sign bit stands above them. -/
structure BinaryLayout where
  fractionBits : Nat
  exponentBits : Nat
deriving DecidableEq, Repr

namespace BinaryLayout

def single : BinaryLayout := ⟨23, 8⟩

def double : BinaryLayout := ⟨52, 11⟩

/-- The exponent of the smallest positive number, which subnormal numbers and
    the first binade share. -/
def leastExponent (layout : BinaryLayout) : Int :=
  2 - Nat.pow 2 (layout.exponentBits - 1) - layout.fractionBits

end BinaryLayout

/-! ### Values -/

/-- What a bit pattern stands for: no number, an infinity, or the number
    `± significand · 2 ^ exponent`. -/
inductive Binary where
  | nan
  | infinite (negative : Bool)
  | finite (negative : Bool) (significand : Nat) (exponent : Int)
deriving DecidableEq, Repr

namespace Binary

/-- Reads a bit pattern. The largest exponent field marks infinities and
    non-numbers, the field zero marks numbers without the implicit leading bit. -/
def ofBits (layout : BinaryLayout) (bits : Nat) : Binary :=
  let fraction := bits % Nat.pow 2 layout.fractionBits
  let field := bits / Nat.pow 2 layout.fractionBits % Nat.pow 2 layout.exponentBits
  let negative := bits / Nat.pow 2 (layout.fractionBits + layout.exponentBits) % 2 == 1
  if field = Nat.pow 2 layout.exponentBits - 1 then
    if fraction = 0 then infinite negative else nan
  else if field = 0 then
    finite negative fraction layout.leastExponent
  else
    finite negative (Nat.pow 2 layout.fractionBits + fraction) (layout.leastExponent + (field - 1))

def ofSingle (x : Float32) : Binary := ofBits .single x.toBits.toNat

def ofDouble (x : Float) : Binary := ofBits .double x.toBits.toNat

/-- The magnitude of a finite value as a quotient of natural numbers. -/
def quotient (significand : Nat) (exponent : Int) : Nat × Nat :=
  if 0 ≤ exponent then (significand * Nat.pow 2 exponent.toNat, 1)
  else (significand, Nat.pow 2 (-exponent).toNat)

/-- The integer part, kept between `least` and `greatest`: a value beyond a
    bound becomes that bound, and what is no number becomes zero. -/
def truncateWithin (least greatest : Int) : Binary → Int
  | nan => 0
  | infinite negative => if negative then least else greatest
  | finite negative significand exponent =>
      let (above, below) := quotient significand exponent
      let magnitude : Int := (above / below : Nat)
      max least (min greatest (if negative then -magnitude else magnitude))

end Binary

/-- The range of the whole numbers that a scene file can express. -/
def leastWhole : Int := -2147483648

/-- The greatest whole number that a scene file can express. -/
def greatestWhole : Int := 2147483647

/-- A double-precision number as a whole number of a scene file. -/
def wholeOfDouble (x : Float) : Int :=
  (Binary.ofDouble x).truncateWithin leastWhole greatestWhole

end VrmlWorld.Number
