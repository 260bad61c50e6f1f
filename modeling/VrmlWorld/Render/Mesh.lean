/-
  VrmlWorld/Render/Mesh.lean
  ==========================
  **Meshes: shapes as a renderer takes them.**

  A vertex is a row of twelve numbers. A mesh is a list of vertices that are
  drawn as triangles, lines or points, in their order or in that of a list of
  indices.
-/
import VrmlWorld.Geometry.Vector

namespace VrmlWorld

open VrmlWorld.Geometry

structure Vertex where
  position : Vec3
  /-- The direction that the surface faces. -/
  normal : Vec3
  /-- Color and opacity. -/
  color : Vec4
  texCoord : Vec2
deriving DecidableEq, Inhabited, Repr

/-- The numbers of a vertex in the order in which they are stored. -/
def Vertex.components (vertex : Vertex) : List Float32 :=
  vertex.position.toList ++ vertex.normal.toList ++ vertex.color.toList ++ vertex.texCoord.toList

inductive Topology where
  /-- Every three are a triangle. -/
  | triangles
  /-- Every two are a line. -/
  | lines
  /-- Every one is a point. -/
  | points
deriving DecidableEq, Repr

/-- A shape as a renderer takes it. -/
structure Mesh where
  vertices : List Vertex
  topology : Topology
  /-- The order of drawing, if it is not that of the vertices. Each index has 32 bits. -/
  indices : Option (List Nat) := none
deriving DecidableEq, Repr

namespace Mesh

def vertexCount (mesh : Mesh) : Nat := mesh.vertices.length

def elementCount (mesh : Mesh) : Nat :=
  match mesh.indices with
  | some indices => indices.length
  | none => mesh.vertexCount

/-- The room that the vertices take, four bytes a number. -/
def byteCount (mesh : Mesh) : Nat :=
  4 * mesh.vertices.foldl (fun numbers vertex => numbers + vertex.components.length) 0

/-- The corners of the box around all positions; an empty mesh has none. -/
def bounds? (mesh : Mesh) : Option (Vec3 × Vec3) :=
  match mesh.vertices.map (·.position) with
  | [] => none
  | first :: others =>
      let least (a b : Float32) : Float32 := if a ≤ b then a else b
      let most (a b : Float32) : Float32 := if b ≤ a then a else b
      some <| others.foldl
        (fun (low, high) p =>
          (⟨least low.x p.x, least low.y p.y, least low.z p.z⟩,
            ⟨most high.x p.x, most high.y p.y, most high.z p.z⟩))
        (first, first)

/-- A mesh of vertices in their order, unless there are none. -/
def ofVertices? (topology : Topology) (vertices : List Vertex) : Option Mesh :=
  if vertices.isEmpty then none else some { vertices, topology }

/-- A mesh of vertices with indices for them in their order. The vertices are counted by a
    32-bit number for that. -/
def indexed? (topology : Topology) (vertices : List Vertex) : Option Mesh :=
  (ofVertices? topology vertices).map fun mesh =>
    { mesh with indices := some (List.range vertices.length.toUInt32.toNat) }

end Mesh

end VrmlWorld
