/-
  VrmlWorld/Text/Range.lean
  =========================
  **Ranges of code points.**

  A property of characters is kept as its maximal ranges in ascending order.
-/

namespace VrmlWorld.Text

/-- The code points from `first` to `last`, both included. -/
structure Range where
  first : Nat
  last : Nat
deriving DecidableEq, Repr

def Range.contains (range : Range) (c : Char) : Bool :=
  range.first ≤ c.toNat && c.toNat ≤ range.last

def inRanges (ranges : Array Range) (c : Char) : Bool := ranges.any (·.contains c)

end VrmlWorld.Text
