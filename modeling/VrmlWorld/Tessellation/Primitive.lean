/-
  VrmlWorld/Tessellation/Primitive.lean
  =====================================
  **Meshes of the built-in solids.**

  All solids stand around the origin with the second axis upwards. Their
  triangles run counter-clockwise when seen from outside.
-/
import VrmlWorld.Tessellation.Context

namespace VrmlWorld.Tessellation

open VrmlWorld.Geometry

/-- The least number of parts of a round shape. -/
def leastSegments : Nat := 3

/-! ### Cube -/

/-- The faces of the cube of side two: the outward direction, and four corners
    counter-clockwise. -/
def cubeFaces : List (Vec3 × Vec3 × Vec3 × Vec3 × Vec3) := [
  (⟨0, 0, 1⟩, ⟨-1, -1, 1⟩, ⟨1, -1, 1⟩, ⟨1, 1, 1⟩, ⟨-1, 1, 1⟩),
  (⟨0, 0, -1⟩, ⟨1, -1, -1⟩, ⟨-1, -1, -1⟩, ⟨-1, 1, -1⟩, ⟨1, 1, -1⟩),
  (⟨1, 0, 0⟩, ⟨1, -1, 1⟩, ⟨1, -1, -1⟩, ⟨1, 1, -1⟩, ⟨1, 1, 1⟩),
  (⟨-1, 0, 0⟩, ⟨-1, -1, -1⟩, ⟨-1, -1, 1⟩, ⟨-1, 1, 1⟩, ⟨-1, 1, -1⟩),
  (⟨0, 1, 0⟩, ⟨-1, 1, 1⟩, ⟨1, 1, 1⟩, ⟨1, 1, -1⟩, ⟨-1, 1, -1⟩),
  (⟨0, -1, 0⟩, ⟨-1, -1, -1⟩, ⟨1, -1, -1⟩, ⟨1, -1, 1⟩, ⟨-1, -1, 1⟩)]

/-- A box: two triangles for each face. -/
def cube (cube : Cube) (color : Vec4) : Mesh where
  topology := .triangles
  vertices := cubeFaces.flatMap fun (normal, p0, p1, p2, p3) =>
    let corner (p : Vec3) (u v : Float32) : Vertex :=
      ⟨p.stretch cube.halfExtents, normal, color, ⟨u, v⟩⟩
    let (a, b, c, d) := (corner p0 0 1, corner p1 1 1, corner p2 1 0, corner p3 0 0)
    [a, b, c, a, c, d]

/-! ### Sphere -/

/-- A ball: rings of latitude and longitude, two triangles for each field
    between them. -/
def sphere (sphere : Sphere) (color : Vec4) (segments : Nat) : Mesh where
  topology := .triangles
  vertices :=
    let count := max segments leastSegments
    let point (i j : Nat) : Vertex :=
      let u := Float32.ofNat j / Float32.ofNat count
      let v := Float32.ofNat i / Float32.ofNat count
      let theta := v * pi
      let phi := u * fullTurn
      let normal : Vec3 := ⟨theta.sin * phi.sin, theta.cos, theta.sin * phi.cos⟩
      ⟨normal.scale sphere.radius, normal, color, ⟨u, v⟩⟩
    (List.range count).flatMap fun i => (List.range count).flatMap fun j =>
      let (a, b, c, d) := (point i j, point (i + 1) j, point (i + 1) (j + 1), point i (j + 1))
      [a, b, c, a, c, d]

/-! ### Cylinder and cone -/

/-- The horizontal direction at a fraction of a full turn. -/
def ringDirection (fraction : Float32) : Vec3 :=
  let phi := fraction * fullTurn
  ⟨phi.sin, 0, phi.cos⟩

/-- The place of a direction in the image on a round end. -/
def capCoord (direction : Vec3) : Vec2 := ⟨0.5 + direction.x * 0.5, 0.5 - direction.z * 0.5⟩

/-- The part of a round end between two directions, at a height; `normal` is
    the side that it faces. -/
def capTriangle (first second : Vec3) (radius height : Float32) (normal : Vec3) (color : Vec4) :
    List Vertex :=
  let rim (direction : Vec3) : Vertex :=
    ⟨direction.scale radius + ⟨0, height, 0⟩, normal, color, capCoord direction⟩
  [⟨⟨0, height, 0⟩, normal, color, ⟨0.5, 0.5⟩⟩, rim first, rim second]

/-- The part of a lower end between two directions, seen from below. -/
def bottomTriangle (first second : Vec3) (radius height : Float32) (color : Vec4) : List Vertex :=
  capTriangle second first radius height (-Vec3.up) color

def cylinder? (cylinder : Cylinder) (color : Vec4) (segments : Nat) : Option Mesh :=
  let count := max segments leastSegments
  let half := cylinder.height * 0.5
  let radius := cylinder.radius
  Mesh.ofVertices? .triangles <| (List.range count).flatMap fun j =>
    let u0 := Float32.ofNat j / Float32.ofNat count
    let u1 := Float32.ofNat (j + 1) / Float32.ofNat count
    let d0 := ringDirection u0
    let d1 := ringDirection u1
    let wall (direction : Vec3) (y u v : Float32) : Vertex :=
      ⟨direction.scale radius + ⟨0, y, 0⟩, direction, color, ⟨u, v⟩⟩
    let sides :=
      let (b0, b1) := (wall d0 (-half) u0 1, wall d1 (-half) u1 1)
      let (t1, t0) := (wall d1 half u1 0, wall d0 half u0 0)
      [b0, b1, t1, b0, t1, t0]
    (if cylinder.parts.sides then sides else [])
      ++ (if cylinder.parts.top then capTriangle d0 d1 radius half Vec3.up color else [])
      ++ (if cylinder.parts.bottom then bottomTriangle d0 d1 radius (-half) color else [])

def cone? (cone : Cone) (color : Vec4) (segments : Nat) : Option Mesh :=
  let count := max segments leastSegments
  let half := cone.height * 0.5
  let radius := cone.bottomRadius
  let slope (direction : Vec3) : Vec3 :=
    (Vec3.unit? ⟨direction.x * cone.height, radius, direction.z * cone.height⟩).getD Vec3.up
  Mesh.ofVertices? .triangles <| (List.range count).flatMap fun j =>
    let u0 := Float32.ofNat j / Float32.ofNat count
    let u1 := Float32.ofNat (j + 1) / Float32.ofNat count
    let d0 := ringDirection u0
    let d1 := ringDirection u1
    let middle := ringDirection ((Float32.ofNat j + 0.5) / Float32.ofNat count)
    let base (direction : Vec3) (u : Float32) : Vertex :=
      ⟨direction.scale radius - ⟨0, half, 0⟩, slope direction, color, ⟨u, 1⟩⟩
    let tip : Vertex := ⟨⟨0, half, 0⟩, slope middle, color, ⟨(u0 + u1) * 0.5, 0⟩⟩
    (if cone.parts.sides then [base d0 u0, base d1 u1, tip] else [])
      ++ (if cone.parts.bottom then bottomTriangle d0 d1 radius (-half) color else [])

end VrmlWorld.Tessellation
