/-
  VrmlWorld/Geometry/Matrix.lean
  ==============================
  **Matrices of space and of the texture plane.**

  `Mat4` maps space in homogeneous coordinates and `Mat3` the texture plane, or
  directions alone. Both are kept by columns. A product adds, from left to
  right, the columns of its left factor, so each element is a sum of products
  in a fixed order.
-/
import VrmlWorld.Geometry.Vector

namespace VrmlWorld.Geometry

/-! ### Three by three -/

/-- A matrix of three columns of three. -/
structure Mat3 where
  c0 : Vec3
  c1 : Vec3
  c2 : Vec3
deriving DecidableEq, Inhabited, Repr

namespace Mat3

/-- A matrix from its elements, row after row. -/
def ofRows (m00 m01 m02 m10 m11 m12 m20 m21 m22 : Float32) : Mat3 :=
  ⟨⟨m00, m10, m20⟩, ⟨m01, m11, m21⟩, ⟨m02, m12, m22⟩⟩

def apply (m : Mat3) (v : Vec3) : Vec3 := (m.c0.scale v.x + m.c1.scale v.y) + m.c2.scale v.z

instance : Mul Mat3 := ⟨fun a b => ⟨a.apply b.c0, a.apply b.c1, a.apply b.c2⟩⟩

def transpose (m : Mat3) : Mat3 :=
  ofRows m.c0.x m.c0.y m.c0.z m.c1.x m.c1.y m.c1.z m.c2.x m.c2.y m.c2.z

def translation (offset : Vec2) : Mat3 := ofRows 1 0 offset.x 0 1 offset.y 0 0 1

def scaling (factors : Vec2) : Mat3 := ofRows factors.x 0 0 0 factors.y 0 0 0 1

def rotation (angle : Float32) : Mat3 :=
  let s := angle.sin
  let c := angle.cos
  ofRows c (-s) 0 s c 0 0 0 1

/-- The inverse: each cofactor divided by the determinant. There is none when
    the determinant is zero. -/
def inverse? (m : Mat3) : Option Mat3 :=
  let (m11, m21, m31) := (m.c0.x, m.c0.y, m.c0.z)
  let (m12, m22, m32) := (m.c1.x, m.c1.y, m.c1.z)
  let (m13, m23, m33) := (m.c2.x, m.c2.y, m.c2.z)
  let minor1 := m22 * m33 - m32 * m23
  let minor2 := m21 * m33 - m31 * m23
  let minor3 := m21 * m32 - m31 * m22
  let det := (m11 * minor1 - m12 * minor2) + m13 * minor3
  if det == 0 then none
  else some <| ofRows
    (minor1 / det) ((m13 * m32 - m33 * m12) / det) ((m12 * m23 - m22 * m13) / det)
    (-minor2 / det) ((m11 * m33 - m31 * m13) / det) ((m13 * m21 - m23 * m11) / det)
    (minor3 / det) ((m12 * m31 - m32 * m11) / det) ((m11 * m22 - m21 * m12) / det)

end Mat3

/-! ### Four by four -/

/-- A matrix of four columns of four. -/
structure Mat4 where
  c0 : Vec4
  c1 : Vec4
  c2 : Vec4
  c3 : Vec4
deriving DecidableEq, Inhabited, Repr

namespace Mat4

/-- A matrix from its elements, row after row. -/
def ofRows (m00 m01 m02 m03 m10 m11 m12 m13 m20 m21 m22 m23 m30 m31 m32 m33 : Float32) : Mat4 :=
  ⟨⟨m00, m10, m20, m30⟩, ⟨m01, m11, m21, m31⟩, ⟨m02, m12, m22, m32⟩, ⟨m03, m13, m23, m33⟩⟩

/-- A matrix from its elements, column after column; missing ones are zero. -/
def ofColumns (values : List Float32) : Mat4 :=
  let entry (i : Nat) : Float32 := values.getD i 0
  let column (i : Nat) : Vec4 := ⟨entry i, entry (i + 1), entry (i + 2), entry (i + 3)⟩
  ⟨column 0, column 4, column 8, column 12⟩

/-- The elements, column after column. -/
def toList (m : Mat4) : List Float32 :=
  m.c0.toList ++ m.c1.toList ++ m.c2.toList ++ m.c3.toList

def identity : Mat4 := ofRows 1 0 0 0 0 1 0 0 0 0 1 0 0 0 0 1

def apply (m : Mat4) (v : Vec4) : Vec4 :=
  ((m.c0.scale v.x + m.c1.scale v.y) + m.c2.scale v.z) + m.c3.scale v.w

instance : Mul Mat4 := ⟨fun a b => ⟨a.apply b.c0, a.apply b.c1, a.apply b.c2, a.apply b.c3⟩⟩

def transpose (m : Mat4) : Mat4 :=
  ofRows m.c0.x m.c0.y m.c0.z m.c0.w m.c1.x m.c1.y m.c1.z m.c1.w
    m.c2.x m.c2.y m.c2.z m.c2.w m.c3.x m.c3.y m.c3.z m.c3.w

def linear (m : Mat4) : Mat3 := ⟨m.c0.xyz, m.c1.xyz, m.c2.xyz⟩

/-- The first three elements of the last row. -/
def lastRow (m : Mat4) : Vec3 := ⟨m.c0.w, m.c1.w, m.c2.w⟩

/-- The image of a point. The homogeneous coordinate divides the result unless
    it is zero. -/
def mapPoint (m : Mat4) (p : Vec3) : Vec3 :=
  let n := m.lastRow.dot p + m.c3.w
  let image := m.linear.apply p + m.c3.xyz
  if n == 0 then image else image.shrink n

/-- The image of a direction, which a translation leaves alone. -/
def mapVector (m : Mat4) (v : Vec3) : Vec3 :=
  let n := m.lastRow.dot v
  if n == 0 then m.linear.apply v else m.linear.apply (v.shrink n)

/-! ### Building blocks -/

def translation (offset : Vec3) : Mat4 :=
  ofRows 1 0 0 offset.x 0 1 0 offset.y 0 0 1 offset.z 0 0 0 1

def scaling (factors : Vec3) : Mat4 :=
  ofRows factors.x 0 0 0 0 factors.y 0 0 0 0 factors.z 0 0 0 0 1

def rotationAbout (axis : Vec3) (angle : Float32) : Mat4 :=
  if angle == 0 then identity
  else
    let s := angle.sin
    let c := angle.cos
    let k := 1 - c
    let (x, y, z) := (axis.x, axis.y, axis.z)
    let diagonal (u : Float32) : Float32 := u * u + (1 - u * u) * c
    ofRows
      (diagonal x) (x * y * k - z * s) (x * z * k + y * s) 0
      (x * y * k + z * s) (diagonal y) (y * z * k - x * s) 0
      (x * z * k - y * s) (y * z * k + x * s) (diagonal z) 0
      0 0 0 1

/-- The rotation about the axis of the first three components by the angle of
    the fourth. Without an axis it turns nothing. -/
def rotation (turn : Vec4) : Mat4 :=
  match turn.xyz.axis? with
  | some axis => rotationAbout axis turn.w
  | none => identity

/-- A map of the texture plane as a map of space that keeps the third
    direction. -/
def ofPlane (m : Mat3) : Mat4 :=
  ofRows m.c0.x m.c1.x 0 m.c2.x m.c0.y m.c1.y 0 m.c2.y 0 0 1 0 0 0 0 1

/-! ### Inverse -/

/-- The determinant of three columns as six triple products, summed in order. -/
def minor (a b c : Vec3) : Float32 :=
  a.x * b.y * c.z - a.x * b.z * c.y - b.x * a.y * c.z + b.x * a.z * c.y
    + c.x * a.y * b.z - c.x * a.z * b.y

def minorNegated (a b c : Vec3) : Float32 :=
  -a.x * b.y * c.z + a.x * b.z * c.y + b.x * a.y * c.z - b.x * a.z * c.y
    - c.x * a.y * b.z + c.x * a.z * b.y

/-- A column without its first component. -/
def drop0 (v : Vec4) : Vec3 := ⟨v.y, v.z, v.w⟩
/-- A column without its second component. -/
def drop1 (v : Vec4) : Vec3 := ⟨v.x, v.z, v.w⟩
/-- A column without its third component. -/
def drop2 (v : Vec4) : Vec3 := ⟨v.x, v.y, v.w⟩
/-- A column without its fourth component. -/
def drop3 (v : Vec4) : Vec3 := ⟨v.x, v.y, v.z⟩

/-- The cofactors of the rows for the column that is left out, in a row of the
    inverse; `even` says whether that column has an even position. -/
def cofactorRow (even : Bool) (a b c : Vec4) : Vec4 :=
  let plus := if even then minor else minorNegated
  let minus := if even then minorNegated else minor
  ⟨plus (drop0 a) (drop0 b) (drop0 c), minus (drop1 a) (drop1 b) (drop1 c),
    plus (drop2 a) (drop2 b) (drop2 c), minus (drop3 a) (drop3 b) (drop3 c)⟩

/-- The inverse: the cofactors times the reciprocal of the determinant. There
    is none when the determinant is zero. -/
def inverse? (m : Mat4) : Option Mat4 :=
  let r0 := cofactorRow true m.c1 m.c2 m.c3
  let r1 := cofactorRow false m.c0 m.c2 m.c3
  let r2 := cofactorRow true m.c0 m.c1 m.c3
  let r3 := cofactorRow false m.c0 m.c1 m.c2
  let det := m.c0.x * r0.x + m.c0.y * r0.y + m.c0.z * r0.z + m.c0.w * r0.w
  if det == 0 then none
  else
    let k := 1 / det
    some (transpose ⟨r0.scale k, r1.scale k, r2.scale k, r3.scale k⟩)

end Mat4

end VrmlWorld.Geometry
