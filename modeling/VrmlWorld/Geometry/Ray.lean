/-
  VrmlWorld/Geometry/Ray.lean
  ===========================
  **Rays, and the boxes and balls they meet.**

  Points of a ray are known by their parameter, which is the distance from its
  origin. Boxes are met by slabs: each axis narrows the range of parameters in
  which the ray is between two planes. The narrowing is written for any
  arithmetic of coordinates and parameters, so it also stands for itself in
  exact arithmetic; rays use it in single precision.
-/
import VrmlWorld.Geometry.Matrix

namespace VrmlWorld.Geometry

/-! ### Rays -/

/-- A half-line from an origin along a unit direction. -/
structure Ray where
  origin : Vec3
  direction : Vec3
deriving DecidableEq, Repr

namespace Ray

def along (origin direction : Vec3) : Ray := ⟨origin, direction.normalize⟩

def pointAt (ray : Ray) (parameter : Float32) : Vec3 :=
  ray.origin + ray.direction.scale parameter

/-- The image of a ray, unless its direction collapses. -/
def mapped? (ray : Ray) (matrix : Mat4) : Option Ray :=
  ((matrix.mapVector ray.direction).unit?).map fun direction =>
    ⟨matrix.mapPoint ray.origin, direction⟩

end Ray

/-! ### Slabs -/

/-- What narrowing needs to know of coordinates `K` and of parameters `P`. -/
structure SlabArithmetic (K P : Type) where
  /-- Before every parameter. -/
  start : P
  /-- After every parameter. -/
  finish : P
  /-- The parameter of the origin. -/
  zero : P
  isZero : K → Bool
  coordinateBelow : K → K → Bool
  /-- The parameter at which a coordinate that begins at `origin` and changes
      by `direction` reaches `plane`. -/
  reach : (plane origin direction : K) → P
  lesser : P → P → P
  greater : P → P → P
  below : P → P → Bool
  atMost : P → P → Bool

/-- One axis of a ray and of a box: where the ray begins and how it runs, and
    the two planes of the box. -/
structure Slab (K : Type) where
  origin : K
  direction : K
  low : K
  high : K

namespace SlabArithmetic

variable {K P : Type} (arithmetic : SlabArithmetic K P)

/-- Narrows a range of parameters by a slab. A ray along the slab stays in it
    forever or never, its planes included. -/
def narrow (range : P × P) (slab : Slab K) : Option (P × P) :=
  if arithmetic.isZero slab.direction then
    if arithmetic.coordinateBelow slab.origin slab.low
        || arithmetic.coordinateBelow slab.high slab.origin then none
    else some range
  else
    let first := arithmetic.reach slab.low slab.origin slab.direction
    let second := arithmetic.reach slab.high slab.origin slab.direction
    some (arithmetic.greater range.1 (arithmetic.lesser first second),
      arithmetic.lesser range.2 (arithmetic.greater first second))

/-- The least positive parameter on the surface of the box of some slabs: where
    the ray enters it or, from inside, where it leaves it. -/
def meet? (slabs : List (Slab K)) : Option P := do
  let (enter, leave) ← slabs.foldlM arithmetic.narrow (arithmetic.start, arithmetic.finish)
  if arithmetic.below leave enter || arithmetic.atMost leave arithmetic.zero then none
  else some (if arithmetic.below arithmetic.zero enter then enter else leave)

end SlabArithmetic

/-- Narrowing in single precision. What is no number narrows nothing. -/
def singleSlabs : SlabArithmetic Float32 Float32 where
  start := -1 / 0
  finish := 1 / 0
  zero := 0
  isZero direction := direction == 0
  coordinateBelow a b := a < b
  reach plane origin direction := (plane - origin) / direction
  lesser := Geometry.lesser
  greater := Geometry.greater
  below a b := a < b
  atMost a b := a ≤ b

/-! ### Solids -/

structure Box where
  min : Vec3
  max : Vec3
deriving DecidableEq, Repr

namespace Box

/-- The box around the origin with a corner in the positive octant. -/
def ofHalfExtents (half : Vec3) : Box := ⟨-half, half⟩

def slabs (box : Box) (ray : Ray) : List (Slab Float32) := [
  ⟨ray.origin.x, ray.direction.x, box.min.x, box.max.x⟩,
  ⟨ray.origin.y, ray.direction.y, box.min.y, box.max.y⟩,
  ⟨ray.origin.z, ray.direction.z, box.min.z, box.max.z⟩]

/-- The least positive parameter at which a ray meets the surface. -/
def meet? (box : Box) (ray : Ray) : Option Float32 := singleSlabs.meet? (box.slabs ray)

end Box

structure Ball where
  center : Vec3
  radius : Float32
deriving DecidableEq, Repr

/-- The least positive parameter at which a ray meets the surface: the smaller
    positive solution of a quadratic equation. -/
def Ball.meet? (ball : Ball) (ray : Ray) : Option Float32 :=
  let offset := ray.origin - ball.center
  let a := ray.direction.dot ray.direction
  let b := 2 * offset.dot ray.direction
  let c := offset.dot offset - ball.radius * ball.radius
  let discriminant := b * b - 4 * a * c
  if discriminant < 0 then none
  else
    let root := discriminant.sqrt
    let first := (-b - root) / (2 * a)
    let second := (-b + root) / (2 * a)
    if 0 < first then some first else if 0 < second then some second else none

end VrmlWorld.Geometry
