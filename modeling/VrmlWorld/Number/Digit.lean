/-
  VrmlWorld/Number/Digit.lean
  ===========================
  **Digits of whole numbers.**

  The digits of the bases up to sixteen, the greater ones as letters of either
  case.
-/

namespace VrmlWorld.Number

def digitValue? (c : Char) : Option Nat :=
  if '0' ≤ c ∧ c ≤ '9' then some (c.toNat - '0'.toNat)
  else if 'a' ≤ c ∧ c ≤ 'f' then some (c.toNat - 'a'.toNat + 10)
  else if 'A' ≤ c ∧ c ≤ 'F' then some (c.toNat - 'A'.toNat + 10)
  else none

def isDigitOf (base : Nat) (c : Char) : Bool := (digitValue? c).any (· < base)

/-- The number that digits spell in a base, if all of them belong to it. -/
def spelledIn? (base : Nat) (digits : List Char) : Option Nat :=
  digits.foldlM
    (fun n c => if isDigitOf base c then (digitValue? c).map (base * n + ·) else none) 0

end VrmlWorld.Number
