/-
  VrmlWorld/Tessellation/Indexed.lean
  ===================================
  **Meshes of faces, lines and points through the current coordinates.**

  A negative entry of `coordIndex` ends a run of corners; a run is a face or a
  line. A corner is known by its position in `coordIndex`, so that the other
  lists of indices line up with it, the ends of runs included.
-/
import VrmlWorld.Tessellation.Context

namespace VrmlWorld.Tessellation

open VrmlWorld.Geometry

/-! ### Runs -/

/-- The runs from a position on, when `corners` holds, in reverse, the corners
    of the run that is not yet ended. A last run needs no end, but a corner. -/
def runsFrom (position : Nat) (corners : List Nat) : List Int → List (List Nat)
  | [] => if corners.isEmpty then [] else [corners.reverse]
  | index :: rest =>
      if index < 0 then corners.reverse :: runsFrom (position + 1) [] rest
      else runsFrom (position + 1) (position :: corners) rest

/-- The runs of a list of indices, each by the positions of its corners. -/
def runs (indices : Array Int) : List (List Nat) := runsFrom 0 [] indices.toList

/-- An entry as a position, if it is not negative. -/
def asPosition? (entry : Int) : Option Nat := if entry < 0 then none else some entry.toNat

/-- The entry at a position, as a position in turn. -/
def positionAt? (entries : Array Int) (position : Nat) : Option Nat :=
  entries[position]?.bind asPosition?

/-- A corner: where it stands in `coordIndex`, and which coordinate it takes. -/
structure Corner where
  position : Nat
  coordinate : Nat
deriving DecidableEq, Repr

/-- The corner at a position, if its coordinate exists. -/
def corner? (shape : IndexedShape) (context : ShapeContext) (position : Nat) : Option Corner :=
  ((positionAt? shape.coordIndex position).filter (· < context.coordinates.size)).map
    (⟨position, ·⟩)

def Corner.point (corner : Corner) (context : ShapeContext) : Vec3 :=
  context.coordinates.getD corner.coordinate .zero

/-! ### Bindings -/

/-- The position in a list of values that a binding gives to a corner of the
    run of an ordinal, with or without a list of indices. -/
def boundPosition? (binding : Binding) (ordinal : Nat) (corner : Corner) (indices : Array Int) :
    Option Nat :=
  match binding with
  | .default => none
  | .overall => some 0
  | .perPart | .perFace => some ordinal
  | .perPartIndexed | .perFaceIndexed =>
      if indices.isEmpty then some ordinal else positionAt? indices ordinal
  | .perVertex => some corner.coordinate
  | .perVertexIndexed =>
      if indices.isEmpty then some corner.coordinate else positionAt? indices corner.position

/-- The color of the palette that the material binding gives to a corner. -/
def boundColor? (shape : IndexedShape) (context : ShapeContext) (ordinal : Nat) (corner : Corner) :
    Option Vec4 :=
  (boundPosition? context.materialBinding ordinal corner shape.materialIndex).bind
    context.paletteColor?

/-! ### Faces -/

/-- The triangles of a fan: the first member with every two neighbours among
    the others. -/
def fan {α : Type} : List α → List (α × α × α)
  | [] => []
  | first :: others => (others.zip others.tail).map fun (a, b) => (first, a, b)

/-- The direction that a face as a whole is taken to face. -/
def flatNormal (context : ShapeContext) (p0 p1 p2 : Vec3) : Vec3 :=
  let flat := (((p1 - p0).cross (p2 - p0)).unit?).getD Vec3.near
  if context.shapeHints.vertexOrdering = .clockwise then -flat else flat

/-- The vertex of a corner of a face that as a whole faces `flat`. -/
def faceVertex (shape : IndexedShape) (context : ShapeContext) (ordinal : Nat) (flat : Vec3)
    (corner : Corner) : Vertex where
  position := corner.point context
  normal :=
    if context.normals.isEmpty then flat
    else
      (((boundPosition? context.normalBinding ordinal corner shape.normalIndex).bind
        (context.normals[·]?)).bind Vec3.unit?).getD flat
  color := (boundColor? shape context ordinal corner).getD context.overallColor
  texCoord :=
    let position :=
      if shape.textureCoordIndex.isEmpty then some corner.coordinate
      else positionAt? shape.textureCoordIndex corner.position
    ((position.bind (context.texCoords[·]?)).map fun t => ⟨t.x, 1 - t.y⟩).getD .zero

/-- The vertices of a face: a fan of triangles. A face of fewer than three
    corners, or one with a corner that has no coordinate, gives none. -/
def faceVertices (shape : IndexedShape) (context : ShapeContext) (ordinal : Nat)
    (run : List Nat) : List Vertex :=
  match run.mapM (corner? shape context) with
  | some (c0 :: c1 :: c2 :: others) =>
      let flat := flatNormal context (c0.point context) (c1.point context) (c2.point context)
      let vertex := faceVertex shape context ordinal flat
      (fan (c0 :: c1 :: c2 :: others)).flatMap fun (a, b, c) =>
        if context.shapeHints.vertexOrdering = .clockwise then [vertex a, vertex c, vertex b]
        else [vertex a, vertex b, vertex c]
  | _ => []

/-- The triangles of all faces. A face that gives none still counts as one for
    the bindings. -/
def faceSet? (shape : IndexedShape) (context : ShapeContext) : Option Mesh :=
  Mesh.ofVertices? .triangles <| (runs shape.coordIndex).zipIdx.flatMap fun (run, ordinal) =>
    faceVertices shape context ordinal run

/-! ### Lines -/

def lineVertex (shape : IndexedShape) (context : ShapeContext) (ordinal : Nat) (corner : Corner) :
    Vertex where
  position := corner.point context
  normal := .near
  color :=
    match context.materialBinding with
    | .default | .overall => context.diffuse
    | _ => (boundColor? shape context ordinal corner).getD context.diffuse
  texCoord := .zero

/-- The vertices of a line: two for each two neighbours that both have a
    coordinate. -/
def lineVertices (shape : IndexedShape) (context : ShapeContext) (ordinal : Nat)
    (run : List Nat) : List Vertex :=
  let vertex? (position : Nat) : Option Vertex :=
    (corner? shape context position).map (lineVertex shape context ordinal)
  (run.zip run.tail).flatMap fun (a, b) =>
    match vertex? a, vertex? b with
    | some a, some b => [a, b]
    | _, _ => []

def lineSet? (shape : IndexedShape) (context : ShapeContext) : Option Mesh :=
  Mesh.indexed? .lines <| (runs shape.coordIndex).zipIdx.flatMap fun (run, ordinal) =>
    lineVertices shape context ordinal run

/-! ### Points -/

/-- The points of a range of the coordinates. A negative start gives none, a
    negative count all that remain. -/
def pointSet? (points : PointSet) (context : ShapeContext) : Option Mesh := do
  let start ← asPosition? points.startIndex
  let stop := match asPosition? points.numPoints with
    | some count => min (start + count) context.coordinates.size
    | none => context.coordinates.size
  Mesh.ofVertices? .points <| (List.range (stop - start)).map fun ordinal =>
    { position := context.coordinates.getD (start + ordinal) .zero
      normal := .near
      color :=
        match context.materialBinding with
        | .perVertex | .perVertexIndexed | .perPart | .perPartIndexed =>
            (context.paletteColor? ordinal).getD context.diffuse
        | _ => context.diffuse
      texCoord := .zero }

end VrmlWorld.Tessellation
