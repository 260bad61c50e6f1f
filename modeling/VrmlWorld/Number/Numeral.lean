/-
  VrmlWorld/Number/Numeral.lean
  =============================
  **Decimal numerals.**

  A numeral is an optional sign, digits with at most one point among them and
  at least one digit, and an optional exponent with at least one digit. Reading
  keeps the exact value `± digits · 10 ^ exponent`; rounding to a
  floating-point number is a second step, to nearest in one rounding.
-/
import VrmlWorld.Number.Decimal

namespace VrmlWorld.Number

/-- The exact value `± digits · 10 ^ exponent` of a numeral; the sign of zero
    is kept. -/
structure Numeral where
  negative : Bool
  digits : Nat
  exponent : Int
deriving DecidableEq, Repr

namespace Numeral

/-! ### Reading -/

/-- Whether a character is one of the ten decimal digits. -/
def isDigit (c : Char) : Bool := '0' ≤ c && c ≤ '9'

def spelled (digits : List Char) : Nat :=
  digits.foldl (fun n c => 10 * n + (c.toNat - '0'.toNat)) 0

/-- Splits off a leading sign; the flag says whether it was a minus. -/
def splitSign : List Char → Bool × List Char
  | '-' :: rest => (true, rest)
  | '+' :: rest => (false, rest)
  | text => (false, text)

/-- Reads the part behind the digits: nothing, or an exponent. -/
def exponent? : List Char → Option Int
  | [] => some 0
  | c :: rest =>
      if c = 'e' ∨ c = 'E' then
        let (negative, digits) := splitSign rest
        if digits.isEmpty || !digits.all isDigit then none
        else some (if negative then -(spelled digits : Int) else spelled digits)
      else none

/-- The part of a numeral behind its leading digits: the digits after a point,
    if there is one, and what follows them. -/
def fraction : List Char → List Char × List Char
  | '.' :: rest => rest.span isDigit
  | rest => ([], rest)

/-- Reads a whole text as a numeral. -/
def ofChars? (text : List Char) : Option Numeral := do
  let (negative, unsigned) := splitSign text
  let (whole, rest) := unsigned.span isDigit
  let (places, rest) := fraction rest
  if whole.isEmpty && places.isEmpty then none
  else
    let exponent ← exponent? rest
    some ⟨negative, spelled (whole ++ places), exponent - places.length⟩

/-! ### Rounding -/

/-- The power of ten above which every number rounds to an infinity, and below
    whose opposite every number rounds to zero, in both precisions. -/
def exponentLimit : Int := 400

/-- The magnitude as a numeral whose exponent is small enough to compute with:
    `none` stands for what is beyond every finite number. -/
def magnitude (numeral : Numeral) : Option (Nat × Int) :=
  let place := (Decimal.width numeral.digits : Int) + numeral.exponent
  if numeral.digits = 0 ∨ place < -exponentLimit then some (0, 0)
  else if exponentLimit < place then none
  else some (numeral.digits, numeral.exponent)

def toDouble (numeral : Numeral) : Float :=
  let size : Float := match numeral.magnitude with
    | none => 1.0 / 0.0
    | some (digits, exponent) => Float.ofScientific digits (exponent < 0) exponent.natAbs
  if numeral.negative then -size else size

def toSingle (numeral : Numeral) : Float32 :=
  let size : Float32 := match numeral.magnitude with
    | none => 1.0 / 0.0
    | some (digits, exponent) => Float32.ofScientific digits (exponent < 0) exponent.natAbs
  if numeral.negative then -size else size

end Numeral

/-- The number that a word spells in single precision: a numeral, or, in any
    case, one of the names `inf`, `infinity` and `nan` behind an optional sign. -/
def single? (text : String) : Option Float32 :=
  match Numeral.ofChars? text.toList with
  | some numeral => some numeral.toSingle
  | none =>
      let (negative, unsigned) := Numeral.splitSign text.toList
      let name := String.ofList (unsigned.map Char.toLower)
      let size : Option Float32 :=
        if name = "inf" ∨ name = "infinity" then some (1.0 / 0.0)
        else if name = "nan" then some (0.0 / 0.0)
        else none
      size.map fun x => if negative then -x else x

end VrmlWorld.Number
