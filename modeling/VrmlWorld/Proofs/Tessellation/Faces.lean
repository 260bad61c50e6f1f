/-
  VrmlWorld/Proofs/Tessellation/Faces.lean
  ========================================
  **Which triangles the faces of a shape are drawn with.**

  Three numberings meet in a mesh of faces. A face has an ordinal among all faces,
  drawn or not; a corner has the position of its entry in `coordIndex`, ends of
  faces included; and it has the number of a coordinate. Here a list of indices is
  split by its negative entries as a whole (`segments`), a fan is told by the
  members that its triangles take (`fanMembers`), and a vertex by the corner it
  stands for (`FaceCorner`), so that each numbering is seen apart from the others.
  `flatMap_faceVertices` puts them together.
-/
import VrmlWorld.Tessellation.Indexed
import Mathlib.Algebra.BigOperators.Ring.List
import Mathlib.Algebra.Ring.Nat
import Mathlib.Data.List.Basic

namespace VrmlWorld.Tessellation

open VrmlWorld.Geometry

/-! ### Segments -/

/-- An entry of a list of indices, and the position where it stands. -/
structure Entry where
  index : Int
  position : Nat
deriving DecidableEq, Repr

def entriesFrom (position : Nat) (indices : List Int) : List Entry :=
  (indices.zipIdx position).map fun (index, position) => ⟨index, position⟩

/-- Pieces without the last one if nothing is there. -/
def trimmed (pieces : List (List Entry)) : List (List Entry) :=
  if pieces.getLast? = some [] then pieces.dropLast else pieces

/-- A list of indices split at its negative entries. Two of them next to each other
    have an empty segment between them; what is behind the last one is a segment
    only if something is there. -/
def segments (indices : Array Int) : List (List Entry) :=
  trimmed ((entriesFrom 0 indices.toList).splitOnP (·.index < 0))

theorem trimmed_cons (first : List Entry) {pieces : List (List Entry)} (more : pieces ≠ []) :
    trimmed (first :: pieces) = first :: trimmed pieces := by
  rw [trimmed, trimmed, List.getLast?_cons_of_ne_nil more, List.dropLast_cons_of_ne_nil more]
  split <;> rfl

theorem trimmed_sublist (pieces : List (List Entry)) : (trimmed pieces).Sublist pieces := by
  rw [trimmed]
  split
  · exact List.dropLast_sublist pieces
  · exact .refl pieces

/-- `begun` holds, in reverse, the entries of the segment that is not yet ended. -/
theorem runsFrom_eq (position : Nat) (begun : List Entry) (indices : List Int) :
    runsFrom position (begun.map (·.position)) indices =
      (trimmed ((entriesFrom position indices).splitOnPPrepend (·.index < 0) begun)).map
        (·.map (·.position)) := by
  induction indices generalizing position begun with
  | nil => cases begun <;> simp [runsFrom, entriesFrom, trimmed]
  | cons index rest ih =>
    have first : entriesFrom position (index :: rest) =
        ⟨index, position⟩ :: entriesFrom (position + 1) rest := rfl
    rw [first, List.splitOnPPrepend_cons_eq_if]
    by_cases negative : index < 0
    · have behind := ih (position + 1) []
      rw [runsFrom, if_pos negative, if_pos (decide_eq_true negative),
        trimmed_cons _ (List.splitOnP_ne_nil _ _), List.map_cons, List.map_reverse]
      exact congrArg _ behind
    · rw [runsFrom, if_neg negative, if_neg (by simpa using negative)]
      exact ih (position + 1) (⟨index, position⟩ :: begun)

/-- The runs of a list of indices are its segments. -/
theorem runs_eq (indices : Array Int) :
    runs indices = (segments indices).map (·.map (·.position)) :=
  runsFrom_eq 0 [] indices.toList

/-- The pieces of a list consist of members that it is not split at. -/
theorem mem_of_mem_splitOnP {α : Type} {p : α → Bool} {members piece : List α} {a : α}
    (isPiece : piece ∈ members.splitOnP p) (among : a ∈ piece) : a ∈ members ∧ p a = false := by
  induction members generalizing piece with
  | nil =>
    obtain rfl : piece = [] := by simpa using isPiece
    cases among
  | cons first members ih =>
    have later {piece : List α} (isPiece : piece ∈ members.splitOnP p) (among : a ∈ piece) :
        a ∈ first :: members ∧ p a = false :=
      ⟨List.mem_cons_of_mem _ (ih isPiece among).1, (ih isPiece among).2⟩
    rw [List.splitOnP_cons_eq_if_modifyHead] at isPiece
    cases ends : p first with
    | true =>
      simp only [ends, if_true, List.mem_cons] at isPiece
      obtain rfl | isPiece := isPiece
      · cases among
      · exact later isPiece among
    | false =>
      obtain ⟨head, pieces, split⟩ := List.exists_cons_of_ne_nil (List.splitOnP_ne_nil p members)
      simp only [ends, Bool.false_eq_true, if_false, split, List.modifyHead_cons,
        List.mem_cons] at isPiece
      obtain rfl | isPiece := isPiece
      · obtain rfl | among := List.mem_cons.1 among
        · exact ⟨List.mem_cons_self .., ends⟩
        · exact later (split ▸ List.mem_cons_self ..) among
      · exact later (split ▸ List.mem_cons_of_mem _ isPiece) among

theorem entry_of_mem_segments {indices : Array Int} {segment : List Entry} {entry : Entry}
    (isSegment : segment ∈ segments indices) (among : entry ∈ segment) :
    indices[entry.position]? = some entry.index ∧ 0 ≤ entry.index := by
  obtain ⟨member, kept⟩ := mem_of_mem_splitOnP ((trimmed_sublist _).subset isSegment) among
  obtain ⟨⟨index, place⟩, found, rfl⟩ := List.mem_map.1 member
  refine ⟨?_, by simpa using kept⟩
  simpa using List.mem_zipIdx_iff_getElem?.1 found

/-! ### Corners -/

def Entry.corner (entry : Entry) : Corner := ⟨entry.position, entry.index.toNat⟩

/-- A face can be drawn when it has three corners at least, and all of them have a
    coordinate. -/
def Drawable (context : ShapeContext) (segment : List Entry) : Prop :=
  3 ≤ segment.length ∧ ∀ entry ∈ segment, entry.index < context.coordinates.size

instance (context : ShapeContext) : DecidablePred (Drawable context) :=
  fun _ => inferInstanceAs (Decidable (_ ∧ _))

section Corners

variable {shape : IndexedShape} {context : ShapeContext} {segment : List Entry}

theorem corner?_eq {entry : Entry}
    (isEntry : shape.coordIndex[entry.position]? = some entry.index ∧ 0 ≤ entry.index) :
    corner? shape context entry.position =
      if entry.index < context.coordinates.size then some entry.corner else none := by
  have inside : entry.index.toNat < context.coordinates.size ↔
      entry.index < context.coordinates.size := by omega
  simp only [corner?, positionAt?, isEntry.1, Option.bind_some, asPosition?,
    if_neg (Int.not_lt.2 isEntry.2), Option.filter_some, inside, decide_eq_true_eq]
  split <;> rfl

theorem mapM_corner? (isEntry : ∀ entry ∈ segment,
      shape.coordIndex[entry.position]? = some entry.index ∧ 0 ≤ entry.index) :
    (segment.map (·.position)).mapM (corner? shape context) =
      if ∀ entry ∈ segment, entry.index < context.coordinates.size then
        some (segment.map Entry.corner) else none := by
  induction segment with
  | nil => simp
  | cons entry segment ih =>
    obtain ⟨first, others⟩ := List.forall_mem_cons.1 isEntry
    rw [List.map_cons, List.mapM_cons, corner?_eq first, ih others]
    by_cases inside : entry.index < context.coordinates.size
    · by_cases all : ∀ entry ∈ segment, entry.index < context.coordinates.size
      · simp [inside, if_pos all]
      · simp [inside, if_neg all]
    · simp [inside]

end Corners

/-! ### Fans -/

/-- The members of a face that its triangles take, three for each: the first one with
    every two neighbours behind it, these two in reverse when the face runs
    clockwise. -/
def fanMembers (ordering : VertexOrdering) (count : Nat) : List Nat :=
  (List.range' 1 (count - 2)).flatMap fun t =>
    if ordering = .clockwise then [0, t + 1, t] else [0, t, t + 1]

theorem length_fanMembers (ordering : VertexOrdering) (count : Nat) :
    (fanMembers ordering count).length = 3 * (count - 2) := by
  have three (t : Nat) :
      (if ordering = .clockwise then [0, t + 1, t] else [0, t, t + 1]).length = 3 := by
    split <;> rfl
  rw [fanMembers, List.length_flatMap]
  simp only [three, List.map_const', List.length_range', List.sum_replicate_nat, Nat.mul_comm]

theorem lt_of_mem_fanMembers {ordering : VertexOrdering} {count member : Nat}
    (among : member ∈ fanMembers ordering count) : member < count := by
  obtain ⟨t, bounds, here⟩ := List.mem_flatMap.1 among
  rw [List.mem_range'_1] at bounds
  split at here
  · simp only [List.mem_cons, List.not_mem_nil, or_false] at here
    omega
  · simp only [List.mem_cons, List.not_mem_nil, or_false] at here
    omega

/-- The triangles of a fan take its members as listed. The induction is on the
    members behind the first one: the triangles without the next member are those of
    a shorter fan, whose members stand one place further on in the longer fan, but
    for the first. -/
theorem flatMap_fan {α : Type} (ordering : VertexOrdering) (members : List α) :
    (fan members).flatMap (fun (a, b, c) =>
        if ordering = .clockwise then [a, c, b] else [a, b, c]) =
      (fanMembers ordering members.length).filterMap (members[·]?) := by
  cases members with
  | nil => rfl
  | cons first others =>
    simp only [fan, List.flatMap_map, fanMembers, List.filterMap_flatMap,
      List.range'_eq_map_range]
    induction others with
    | nil => rfl
    | cons a others ih =>
      cases others with
      | nil => rfl
      | cons b others =>
        have count : (first :: a :: b :: others).length - 2 =
            ((first :: b :: others).length - 2) + 1 := by simp
        have further (t : Nat) :
            (if ordering = .clockwise then [0, 1 + t + 1, 1 + t] else [0, 1 + t, 1 + t + 1]).filterMap
                ((first :: b :: others)[·]?) =
              (if ordering = .clockwise then [0, 1 + t.succ + 1, 1 + t.succ]
                else [0, 1 + t.succ, 1 + t.succ + 1]).filterMap ((first :: a :: b :: others)[·]?) := by
          have one : 1 + t = t + 1 := Nat.add_comm 1 t
          have two : 1 + t.succ = t + 2 := Nat.add_comm 1 t.succ
          rw [one, two]
          split <;> rfl
        rw [List.tail_cons] at ih
        rw [count, List.range_succ_eq_map, List.flatMap_cons, List.flatMap_map, List.tail_cons,
          List.zip_cons_cons, List.flatMap_cons, ih]
        simp only [further]
        congr 1
        split <;> rfl

/-! ### Faces -/

/-- A corner of a triangle, and the ordinal of the face that the triangle is of. -/
structure FaceCorner where
  face : Nat
  corner : Corner
deriving DecidableEq, Repr

/-- The corners of the triangles of a face, in the order of drawing. -/
def faceCorners (ordering : VertexOrdering) (segment : List Entry) (face : Nat) :
    List FaceCorner :=
  (fanMembers ordering segment.length).filterMap fun member =>
    segment[member]?.map fun entry => ⟨face, entry.corner⟩

theorem length_faceCorners (ordering : VertexOrdering) (segment : List Entry) (face : Nat) :
    (faceCorners ordering segment face).length = 3 * (segment.length - 2) := by
  have found : ∀ member ∈ fanMembers ordering segment.length,
      (segment[member]?.map fun entry => (⟨face, entry.corner⟩ : FaceCorner)).isSome := by
    intro member among
    simpa using lt_of_mem_fanMembers among
  rw [faceCorners, ← length_fanMembers ordering, List.length_filterMap_eq_countP,
    List.countP_eq_length.2 found]

theorem exists_entry_of_mem_faceCorners {ordering : VertexOrdering} {segment : List Entry}
    {face : Nat} {drawn : FaceCorner} (member : drawn ∈ faceCorners ordering segment face) :
    ∃ entry ∈ segment, drawn = ⟨face, entry.corner⟩ := by
  obtain ⟨place, -, found⟩ := List.mem_filterMap.1 member
  obtain ⟨entry, here, rfl⟩ := Option.map_eq_some_iff.1 found
  exact ⟨entry, List.mem_of_getElem? here, rfl⟩

/-- The direction that a face as a whole faces, by its first three corners. -/
def faceNormal (context : ShapeContext) (segment : List Entry) : Vec3 :=
  match segment.map fun entry => entry.corner.point context with
  | p0 :: p1 :: p2 :: _ => flatNormal context p0 p1 p2
  | _ => .near

def FaceCorner.vertex (drawn : FaceCorner) (shape : IndexedShape) (context : ShapeContext)
    (normal : Vec3) : Vertex :=
  faceVertex shape context drawn.face normal drawn.corner

/-- A face that can be drawn gives the vertices of its triangles, and another one gives
    none. -/
theorem faceVertices_eq {shape : IndexedShape} {context : ShapeContext} {segment : List Entry}
    (face : Nat) (isEntry : ∀ entry ∈ segment,
      shape.coordIndex[entry.position]? = some entry.index ∧ 0 ≤ entry.index) :
    faceVertices shape context face (segment.map (·.position)) =
      if Drawable context segment then
        (faceCorners context.shapeHints.vertexOrdering segment face).map
          (·.vertex shape context (faceNormal context segment))
      else [] := by
  rw [faceVertices, mapM_corner? isEntry]
  by_cases inside : ∀ entry ∈ segment, entry.index < context.coordinates.size
  · have count : (segment.map Entry.corner).length = segment.length := List.length_map ..
    have few (short : (segment.map Entry.corner).length < 3) : ¬ Drawable context segment := by
      intro drawable
      have three := drawable.1
      omega
    rw [if_pos inside]
    match corners : segment.map Entry.corner with
    | [] | [_] | [_, _] => rw [if_neg (few (by simp [corners]))]
    | c0 :: c1 :: c2 :: others =>
      have drawable : Drawable context segment := ⟨by simp [← count, corners], inside⟩
      have normal : faceNormal context segment =
          flatNormal context (c0.point context) (c1.point context) (c2.point context) := by
        have points : segment.map (fun entry => entry.corner.point context) =
            (segment.map Entry.corner).map (·.point context) := by simp
        rw [faceNormal, points, corners]
        rfl
      have drawn : (faceCorners context.shapeHints.vertexOrdering segment face).map
            (·.vertex shape context (faceNormal context segment)) =
          ((fanMembers context.shapeHints.vertexOrdering segment.length).filterMap
            ((segment.map Entry.corner)[·]?)).map
              (faceVertex shape context face (faceNormal context segment)) := by
        simp [faceCorners, FaceCorner.vertex, List.map_filterMap, Function.comp_def]
      rw [if_pos drawable, drawn, ← count, ← flatMap_fan, corners, List.map_flatMap, normal]
      simp only [apply_ite (List.map _), List.map_cons, List.map_nil]
  · have hidden : ¬ Drawable context segment := fun drawable => inside drawable.2
    rw [if_neg inside, if_neg hidden]

/-! ### What a vertex takes -/

namespace FaceCorner

/-- The number that a binding goes by at a corner: that of the face, or that of the
    coordinate. -/
def number? (drawn : FaceCorner) : Binding → Option Nat
  | .default => none
  | .overall => some 0
  | .perPart | .perPartIndexed | .perFace | .perFaceIndexed => some drawn.face
  | .perVertex | .perVertexIndexed => some drawn.corner.coordinate

/-- Where an indexed binding looks in its list of indices: at the face, or at the
    position of the corner. -/
def place? (drawn : FaceCorner) : Binding → Option Nat
  | .perPartIndexed | .perFaceIndexed => some drawn.face
  | .perVertexIndexed => some drawn.corner.position
  | _ => none

/-- What a binding selects at a corner. An indexed one goes by its list of indices, if
    there is one. -/
def selected? (drawn : FaceCorner) (binding : Binding) (indices : Array Int) : Option Nat :=
  match drawn.place? binding with
  | some place => if indices.isEmpty then drawn.number? binding else indices[place]?.bind Int.toNat?
  | none => drawn.number? binding

/-- The color that the material binding selects from the palette, or else the first one
    there, or else white. -/
def color (drawn : FaceCorner) (shape : IndexedShape) (context : ShapeContext) : Vec4 :=
  let own : Option Vec3 := (drawn.selected? context.materialBinding shape.materialIndex).bind
    (context.palette[·]?)
  (own.or context.palette[0]?).elim white (·.extend 1)

/-- The texture coordinate that `textureCoordIndex` selects, or without such a list the
    one of the coordinate's number, upside down; the origin if there is none. -/
def texCoord (drawn : FaceCorner) (shape : IndexedShape) (context : ShapeContext) : Vec2 :=
  let selected : Option Nat :=
    if shape.textureCoordIndex.isEmpty then some drawn.corner.coordinate
    else shape.textureCoordIndex[drawn.corner.position]?.bind Int.toNat?
  ((selected.bind (context.texCoords[·]?)).map fun t => ⟨t.x, 1 - t.y⟩).getD .zero

end FaceCorner

theorem asPosition?_eq_toNat? : asPosition? = Int.toNat? := by
  funext entry
  cases entry with
  | ofNat n => rfl
  | negSucc n => exact if_pos (Int.negSucc_lt_zero n)

theorem boundPosition?_eq (binding : Binding) (indices : Array Int) (drawn : FaceCorner) :
    boundPosition? binding drawn.face drawn.corner indices = drawn.selected? binding indices := by
  cases binding with
  | perPartIndexed | perFaceIndexed | perVertexIndexed =>
    simp [boundPosition?, FaceCorner.selected?, FaceCorner.number?, FaceCorner.place?, positionAt?,
      asPosition?_eq_toNat?]
  | _ => rfl

theorem FaceCorner.color_vertex (drawn : FaceCorner) (shape : IndexedShape)
    (context : ShapeContext) (normal : Vec3) :
    (drawn.vertex shape context normal).color = drawn.color shape context := by
  simp only [vertex, faceVertex, boundColor?, boundPosition?_eq, color, ShapeContext.overallColor]
  have first : (context.paletteColor? 0).getD white =
      context.palette[0]?.elim white (·.extend 1) := by
    rw [ShapeContext.paletteColor?]
    cases context.palette[0]? <;> rfl
  rw [first]
  cases drawn.selected? context.materialBinding shape.materialIndex with
  | none => simp
  | some position =>
    cases found : context.palette[position]? <;> simp [ShapeContext.paletteColor?, found]

theorem FaceCorner.texCoord_vertex (drawn : FaceCorner) (shape : IndexedShape)
    (context : ShapeContext) (normal : Vec3) :
    (drawn.vertex shape context normal).texCoord = drawn.texCoord shape context := by
  simp only [vertex, faceVertex, texCoord, positionAt?, asPosition?_eq_toNat?]

/-- A corner of a face that can be drawn stands at its coordinate. -/
theorem position_vertex {context : ShapeContext} {segment : List Entry}
    (drawable : Drawable context segment) (isIndex : ∀ entry ∈ segment, 0 ≤ entry.index)
    (shape : IndexedShape) (normal : Vec3) (face : Nat) :
    ∀ drawn ∈ faceCorners context.shapeHints.vertexOrdering segment face,
      some (drawn.vertex shape context normal).position =
        context.coordinates[drawn.corner.coordinate]? := by
  intro drawn member
  obtain ⟨entry, among, rfl⟩ := exists_entry_of_mem_faceCorners member
  have inside : entry.index.toNat < context.coordinates.size := by
    have below := drawable.2 entry among
    have above := isIndex entry among
    omega
  simp [FaceCorner.vertex, faceVertex, Corner.point, Entry.corner, inside]

/-! ### Meshes of faces -/

/-- The faces that can be drawn, with their ordinals among all faces. -/
def drawableFaces (shape : IndexedShape) (context : ShapeContext) : List (List Entry × Nat) :=
  (segments shape.coordIndex).zipIdx.filter fun (segment, _) => Drawable context segment

theorem flatMap_filter {α β : Type} (p : α → Bool) (f : α → List β) (members : List α) :
    (members.filter p).flatMap f = members.flatMap fun a => if p a then f a else [] := by
  induction members with
  | nil => rfl
  | cons a members ih => cases kept : p a <;> simp [kept, ih]

theorem flatMap_faceVertices (shape : IndexedShape) (context : ShapeContext) :
    ((runs shape.coordIndex).zipIdx.flatMap fun (run, face) =>
        faceVertices shape context face run) =
      (drawableFaces shape context).flatMap fun (segment, face) =>
        (faceCorners context.shapeHints.vertexOrdering segment face).map
          (·.vertex shape context (faceNormal context segment)) := by
  rw [drawableFaces, flatMap_filter, runs_eq, List.zipIdx_map, List.flatMap_map]
  refine List.flatMap_congr fun counted member => ?_
  have isSegment := List.fst_mem_of_mem_zipIdx member
  simpa using faceVertices_eq counted.2 fun entry among => entry_of_mem_segments isSegment among

theorem drawableFaces_eq_nil_iff {shape : IndexedShape} {context : ShapeContext} :
    drawableFaces shape context = [] ↔
      ∀ segment ∈ segments shape.coordIndex, ¬ Drawable context segment := by
  rw [drawableFaces, List.filter_eq_nil_iff]
  constructor
  · intro hidden segment isSegment
    obtain ⟨face, within, same⟩ := List.getElem_of_mem isSegment
    simpa using hidden (segment, face)
      (List.mk_mem_zipIdx_iff_getElem?.2 (by simp [within, same]))
  · intro hidden counted member
    simpa using hidden counted.1 (List.fst_mem_of_mem_zipIdx member)

/-- There is a mesh exactly if some face can be drawn, and it has three vertices for
    each triangle of these faces, in order. Each vertex stands at the coordinate of its
    corner, and has the color and the texture coordinate that are selected there. -/
theorem faceSet?_of_drawable_faces (shape : IndexedShape) (context : ShapeContext) :
    let faces := drawableFaces shape context
    let corners := faces.flatMap fun (segment, face) =>
      faceCorners context.shapeHints.vertexOrdering segment face
    (faceSet? shape context = none ↔
      ∀ segment ∈ segments shape.coordIndex, ¬ Drawable context segment) ∧
    ∀ mesh, faceSet? shape context = some mesh →
      mesh.topology = .triangles ∧ mesh.indices = none ∧
      mesh.vertices.length = 3 * (faces.map fun (segment, _) => segment.length - 2).sum ∧
      mesh.vertices.map (fun vertex => some vertex.position) =
        corners.map (fun drawn => context.coordinates[drawn.corner.coordinate]?) ∧
      mesh.vertices.map (·.color) = corners.map (·.color shape context) ∧
      mesh.vertices.map (·.texCoord) = corners.map (·.texCoord shape context) := by
  intro faces corners
  have isFace : ∀ counted ∈ faces, counted.1 ∈ segments shape.coordIndex ∧
      Drawable context counted.1 := by
    intro counted member
    obtain ⟨among, drawable⟩ := List.mem_filter.1 member
    exact ⟨List.fst_mem_of_mem_zipIdx among, by simpa using drawable⟩
  let vertices := faces.flatMap fun (segment, face) =>
    (faceCorners context.shapeHints.vertexOrdering segment face).map
      (·.vertex shape context (faceNormal context segment))
  have made : faceSet? shape context = Mesh.ofVertices? .triangles vertices :=
    congrArg _ (flatMap_faceVertices shape context)
  have taken {β : Type} (take : Vertex → β) (give : FaceCorner → β)
      (same : ∀ counted ∈ faces,
        ∀ drawn ∈ faceCorners context.shapeHints.vertexOrdering counted.1 counted.2,
          take (drawn.vertex shape context (faceNormal context counted.1)) = give drawn) :
      vertices.map take = corners.map give := by
    simp only [vertices, corners, List.map_flatMap, List.map_map]
    exact List.flatMap_congr fun counted member => List.map_congr_left (same counted member)
  have count : vertices.length = 3 * (faces.map fun (segment, _) => segment.length - 2).sum := by
    rw [← List.sum_map_mul_left faces (fun counted => counted.1.length - 2) 3]
    simp [vertices, List.length_flatMap, length_faceCorners]
  have empty : vertices = [] ↔ faces = [] := by
    constructor
    · intro none
      refine List.eq_nil_iff_forall_not_mem.2 fun counted member => ?_
      have short := congrArg List.length (List.flatMap_eq_nil_iff.1 none counted member)
      have three := (isFace counted member).2.1
      simp only [List.length_map, length_faceCorners, List.length_nil] at short
      omega
    · intro none
      simp only [vertices, none, List.flatMap_nil]
  rw [made, Mesh.ofVertices?, ← drawableFaces_eq_nil_iff]
  refine ⟨by simp [List.isEmpty_iff, empty, faces], fun mesh isMesh => ?_⟩
  split at isMesh
  · cases isMesh
  · obtain rfl := Option.some.inj isMesh
    refine ⟨rfl, rfl, count, taken _ _ ?_, taken _ _ ?_, taken _ _ ?_⟩
    · intro counted member
      obtain ⟨isSegment, drawable⟩ := isFace counted member
      exact position_vertex drawable
        (fun entry among => (entry_of_mem_segments isSegment among).2) shape _ counted.2
    · exact fun counted _ drawn _ => drawn.color_vertex shape context _
    · exact fun counted _ drawn _ => drawn.texCoord_vertex shape context _

/-- Two ends next to each other make an empty face, and the last face needs no end. -/
example : segments #[0, 1, -1, -1, 2] = [[⟨0, 0⟩, ⟨1, 1⟩], [], [⟨2, 4⟩]] := by decide

end VrmlWorld.Tessellation
