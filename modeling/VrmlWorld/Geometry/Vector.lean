/-
  VrmlWorld/Geometry/Vector.lean
  ==============================
  **Vectors of two, three and four single-precision components.**

  Sums of products run from left to right without fused operations, so every
  result is determined to the last bit. Points and directions share `Vec3`;
  which of them is meant shows in how a matrix is applied to it.
-/

namespace VrmlWorld.Geometry

/-! ### Constants and scalar functions -/

def epsilon : Float32 := 1.1920929e-7

def pi : Float32 := 3.14159265

def fullTurn : Float32 := 2.0 * pi

def quarterTurn : Float32 := pi * 0.5

def radians (degrees : Float32) : Float32 := degrees * (pi / 180.0)

/-- The value, or the bound that it lies beyond. What is no number stays so. -/
def clamp (value least greatest : Float32) : Float32 :=
  if value < least then least else if greatest < value then greatest else value

/-- The smaller number; a number wins over what is no number. -/
def lesser (a b : Float32) : Float32 :=
  if a.isNaN then b else if b.isNaN then a else if a ≤ b then a else b

/-- The greater number; a number wins over what is no number. -/
def greater (a b : Float32) : Float32 :=
  if a.isNaN then b else if b.isNaN then a else if b ≤ a then a else b

/-! ### Two components -/

/-- A pair of numbers: a texture coordinate, or a place on the screen. -/
structure Vec2 where
  x : Float32
  y : Float32
deriving DecidableEq, Inhabited, Repr

namespace Vec2

def zero : Vec2 := ⟨0, 0⟩

instance : Add Vec2 := ⟨fun a b => ⟨a.x + b.x, a.y + b.y⟩⟩
instance : Sub Vec2 := ⟨fun a b => ⟨a.x - b.x, a.y - b.y⟩⟩
instance : Neg Vec2 := ⟨fun a => ⟨-a.x, -a.y⟩⟩

def norm (a : Vec2) : Float32 := (a.x * a.x + a.y * a.y).sqrt

end Vec2

/-! ### Three components -/

/-- A point or a direction of space, or a color. -/
structure Vec3 where
  x : Float32
  y : Float32
  z : Float32
deriving DecidableEq, Inhabited, Repr

namespace Vec3

def zero : Vec3 := ⟨0, 0, 0⟩

def up : Vec3 := ⟨0, 1, 0⟩

def near : Vec3 := ⟨0, 0, 1⟩

instance : Add Vec3 := ⟨fun a b => ⟨a.x + b.x, a.y + b.y, a.z + b.z⟩⟩
instance : Sub Vec3 := ⟨fun a b => ⟨a.x - b.x, a.y - b.y, a.z - b.z⟩⟩
instance : Neg Vec3 := ⟨fun a => ⟨-a.x, -a.y, -a.z⟩⟩

def scale (a : Vec3) (k : Float32) : Vec3 := ⟨a.x * k, a.y * k, a.z * k⟩

def shrink (a : Vec3) (k : Float32) : Vec3 := ⟨a.x / k, a.y / k, a.z / k⟩

def stretch (a b : Vec3) : Vec3 := ⟨a.x * b.x, a.y * b.y, a.z * b.z⟩

def dot (a b : Vec3) : Float32 := (a.x * b.x + a.y * b.y) + a.z * b.z

def cross (a b : Vec3) : Vec3 :=
  ⟨a.y * b.z - a.z * b.y, a.z * b.x - a.x * b.z, a.x * b.y - a.y * b.x⟩

def norm (a : Vec3) : Float32 := (a.dot a).sqrt

/-- The vector divided by its length; the zero vector has no direction and
    gives no numbers. -/
def normalize (a : Vec3) : Vec3 := a.shrink a.norm

/-- The unit vector of the same direction, if the length exceeds `epsilon` or
    is no number. -/
def unit? (a : Vec3) : Option Vec3 :=
  let length := a.norm
  if length ≤ epsilon then none else some (a.shrink length)

/-- The rotation axis of the same direction, if the squared length exceeds the
    square of `epsilon`. -/
def axis? (a : Vec3) : Option Vec3 :=
  let square := a.dot a
  if epsilon * epsilon < square then some (a.shrink square.sqrt) else none

end Vec3

/-! ### Four components -/

/-- A rotation (axis and angle), a color with opacity, or a column of a matrix. -/
structure Vec4 where
  x : Float32
  y : Float32
  z : Float32
  w : Float32
deriving DecidableEq, Inhabited, Repr

namespace Vec4

def scale (a : Vec4) (k : Float32) : Vec4 := ⟨a.x * k, a.y * k, a.z * k, a.w * k⟩

instance : Add Vec4 := ⟨fun a b => ⟨a.x + b.x, a.y + b.y, a.z + b.z, a.w + b.w⟩⟩

/-- The first three components. -/
def xyz (a : Vec4) : Vec3 := ⟨a.x, a.y, a.z⟩

def toList (a : Vec4) : List Float32 := [a.x, a.y, a.z, a.w]

end Vec4

def Vec3.extend (a : Vec3) (w : Float32) : Vec4 := ⟨a.x, a.y, a.z, w⟩

def Vec3.toList (a : Vec3) : List Float32 := [a.x, a.y, a.z]

def Vec2.toList (a : Vec2) : List Float32 := [a.x, a.y]

end VrmlWorld.Geometry
