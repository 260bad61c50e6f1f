/-
  VrmlWorld/Proofs/Tessellation/Lines.lean
  ========================================
  **Which strokes of lines, and which points, are drawn.**

  A line is drawn by strokes, one for each two neighbours in its run that both have
  a coordinate. The runs can be forgotten again: two entries are neighbours in a run
  exactly if they are neighbours in `coordIndex` and none of them ends a run
  (`strokes_eq`). So no stroke leads from one line to the next, and a corner without
  a coordinate takes no more than its own strokes away.
-/
import VrmlWorld.Proofs.Tessellation.Faces
import Mathlib.Data.List.Defs

namespace VrmlWorld

open VrmlWorld.Geometry

namespace Mesh

theorem ofVertices?_eq_none_iff {topology : Topology} {vertices : List Vertex} :
    ofVertices? topology vertices = none ↔ vertices = [] := by
  simp [ofVertices?]

theorem eq_of_ofVertices? {topology : Topology} {vertices : List Vertex} {mesh : Mesh}
    (made : ofVertices? topology vertices = some mesh) : mesh = { vertices, topology } := by
  rw [ofVertices?] at made
  split at made
  · cases made
  · exact (Option.some.inj made).symm

theorem indexed?_eq_none_iff {topology : Topology} {vertices : List Vertex} :
    indexed? topology vertices = none ↔ vertices = [] := by
  rw [indexed?, Option.map_eq_none_iff, ofVertices?_eq_none_iff]

/-- There are as many indices as the lowest 32 bits of the count of the vertices say. -/
theorem eq_of_indexed? {topology : Topology} {vertices : List Vertex} {mesh : Mesh}
    (made : indexed? topology vertices = some mesh) :
    mesh = { vertices, topology, indices := some (List.range (vertices.length % 2 ^ 32)) } := by
  have counted : vertices.length.toUInt32.toNat = vertices.length % 2 ^ 32 := UInt32.toNat_ofNat'
  obtain ⟨plain, isPlain, rfl⟩ := Option.map_eq_some_iff.1 made
  rw [eq_of_ofVertices? isPlain, counted]

end Mesh

namespace Tessellation

/-! ### Strokes -/

/-- The neighbours in a run that both have a coordinate. -/
def strokesOf (context : ShapeContext) (segment : List Entry) : List (Entry × Entry) :=
  segment.consecutivePairs.filter fun (a, b) =>
    a.index < context.coordinates.size ∧ b.index < context.coordinates.size

/-- The strokes of all lines. -/
def strokes (shape : IndexedShape) (context : ShapeContext) : List (Entry × Entry) :=
  (segments shape.coordIndex).flatMap (strokesOf context)

theorem consecutivePairs_cons_cons {α : Type} (a b : α) (members : List α) :
    (a :: b :: members).consecutivePairs = (a, b) :: (b :: members).consecutivePairs := rfl

/-- The pieces of a list have the neighbours of the list, but for those that it is
    split at. -/
theorem flatMap_consecutivePairs_splitOnP {α : Type} (p : α → Bool) (members : List α) :
    (members.splitOnP p).flatMap (·.consecutivePairs) =
      members.consecutivePairs.filter fun (a, b) => !p a && !p b := by
  induction members with
  | nil => rfl
  | cons first members ih =>
    have split := List.splitOnP_cons_eq_if_modifyHead (p := p) first members
    cases members with
    | nil =>
      rw [split]
      cases p first <;> rfl
    | cons second members =>
      have further := List.splitOnP_cons_eq_if_modifyHead (p := p) second members
      obtain ⟨head, pieces, behind⟩ := List.exists_cons_of_ne_nil (List.splitOnP_ne_nil p members)
      rw [consecutivePairs_cons_cons, List.filter_cons, ← ih, split]
      cases ends : p first with
      | true => simp [ends]
      | false =>
        rw [further]
        cases ends' : p second with
        | true => simp [ends']
        | false => simp [ends, ends', behind, consecutivePairs_cons_cons]

theorem flatMap_trimmed {α : Type} (f : List Entry → List α) (empty : f [] = [])
    (pieces : List (List Entry)) : (trimmed pieces).flatMap f = pieces.flatMap f := by
  rw [trimmed]
  split
  · rename_i last
    obtain ⟨before, rfl⟩ := List.getLast?_eq_some_iff.1 last
    simp [empty]
  · rfl

theorem mem_strokesOf {context : ShapeContext} {segment : List Entry} {a b : Entry}
    (stroke : (a, b) ∈ strokesOf context segment) :
    (a ∈ segment ∧ a.index < context.coordinates.size) ∧
      (b ∈ segment ∧ b.index < context.coordinates.size) := by
  obtain ⟨pair, inside⟩ := List.mem_filter.1 stroke
  obtain ⟨insideA, insideB⟩ := of_decide_eq_true inside
  obtain ⟨here, behind⟩ := List.of_mem_zip pair
  exact ⟨⟨here, insideA⟩, List.mem_of_mem_tail behind, insideB⟩

/-- The strokes are the neighbours in `coordIndex` that both have a coordinate. -/
theorem strokes_eq (shape : IndexedShape) (context : ShapeContext) :
    strokes shape context =
      (entriesFrom 0 shape.coordIndex.toList).consecutivePairs.filter fun (a, b) =>
        (0 ≤ a.index ∧ a.index < context.coordinates.size) ∧
          (0 ≤ b.index ∧ b.index < context.coordinates.size) := by
  have apart : strokes shape context =
      ((segments shape.coordIndex).flatMap (·.consecutivePairs)).filter fun (a, b) =>
        a.index < context.coordinates.size ∧ b.index < context.coordinates.size :=
    List.filter_flatMap.symm
  rw [apart, segments, flatMap_trimmed _ rfl, flatMap_consecutivePairs_splitOnP, List.filter_filter]
  refine List.filter_congr fun (a, b) _ => ?_
  rw [Bool.eq_iff_iff]
  simp only [Bool.and_eq_true, decide_eq_true_eq, Bool.not_eq_true', decide_eq_false_iff_not,
    Int.not_lt]
  tauto

/-! ### Meshes of lines -/

theorem lineVertices_eq {shape : IndexedShape} {context : ShapeContext} {segment : List Entry}
    (line : Nat) (isEntry : ∀ entry ∈ segment,
      shape.coordIndex[entry.position]? = some entry.index ∧ 0 ≤ entry.index) :
    lineVertices shape context line (segment.map (·.position)) =
      (strokesOf context segment).flatMap fun (a, b) =>
        [lineVertex shape context line a.corner, lineVertex shape context line b.corner] := by
  rw [lineVertices, ← List.map_tail, List.zip_map, List.flatMap_map, strokesOf, flatMap_filter]
  refine List.flatMap_congr fun (a, b) pair => ?_
  obtain ⟨here, behind⟩ := List.of_mem_zip pair
  simp only [Prod.map, corner?_eq (isEntry a here),
    corner?_eq (isEntry b (List.mem_of_mem_tail behind))]
  by_cases insideA : a.index < context.coordinates.size
  · by_cases insideB : b.index < context.coordinates.size
    · simp [insideA, insideB]
    · simp [insideA, insideB]
  · simp [insideA]

theorem flatMap_lineVertices (shape : IndexedShape) (context : ShapeContext) :
    ((runs shape.coordIndex).zipIdx.flatMap fun (run, line) =>
        lineVertices shape context line run) =
      (segments shape.coordIndex).zipIdx.flatMap fun (segment, line) =>
        (strokesOf context segment).flatMap fun (a, b) =>
          [lineVertex shape context line a.corner, lineVertex shape context line b.corner] := by
  rw [runs_eq, List.zipIdx_map, List.flatMap_map]
  refine List.flatMap_congr fun (segment, line) member => ?_
  have isSegment := List.fst_mem_of_mem_zipIdx member
  exact lineVertices_eq line fun entry among => entry_of_mem_segments isSegment among

/-- What the vertices of lines have in common with all lines is a matter of the
    strokes alone. -/
theorem map_lineVertices {α : Type} (shape : IndexedShape) (context : ShapeContext)
    (take : Vertex → α) (give : Entry → α)
    (same : ∀ segment ∈ segments shape.coordIndex, ∀ entry ∈ segment,
      entry.index < context.coordinates.size →
      ∀ line, take (lineVertex shape context line entry.corner) = give entry) :
    ((runs shape.coordIndex).zipIdx.flatMap fun (run, line) =>
        lineVertices shape context line run).map take =
      (strokes shape context).flatMap fun (a, b) => [give a, give b] := by
  rw [flatMap_lineVertices, List.map_flatMap, strokes, List.flatMap_assoc]
  nth_rewrite 2 [← List.zipIdx_map_fst 0 (segments shape.coordIndex)]
  rw [List.flatMap_map]
  refine List.flatMap_congr fun (segment, line) member => ?_
  have isSegment := List.fst_mem_of_mem_zipIdx member
  rw [List.map_flatMap]
  refine List.flatMap_congr fun (a, b) stroke => ?_
  obtain ⟨⟨amongA, insideA⟩, amongB, insideB⟩ := mem_strokesOf stroke
  simp only [List.map_cons, List.map_nil, same segment isSegment a amongA insideA,
    same segment isSegment b amongB insideB]

/-! ### Ranges of points -/

/-- Where a set of points ends: behind as many as it has, or with the coordinates if
    these are fewer, or if the number is negative. -/
def pointStop (points : PointSet) (context : ShapeContext) : Nat :=
  if points.numPoints < 0 then context.coordinates.size
  else min (points.startIndex + points.numPoints).toNat context.coordinates.size

theorem pointStop_le (points : PointSet) (context : ShapeContext) :
    pointStop points context ≤ context.coordinates.size := by
  rw [pointStop]
  split
  · exact le_rfl
  · exact Nat.min_le_right ..

theorem map_getD_range {α : Type} (members : Array α) (default : α) {start stop : Nat}
    (within : stop ≤ members.size) :
    ((List.range (stop - start)).map fun ordinal => members.getD (start + ordinal) default) =
      (members.extract start stop).toList := by
  apply List.ext_getElem
  · simp only [List.length_map, List.length_range, Array.length_toList, Array.size_extract]
    omega
  · intro ordinal _ inside
    simp only [Array.length_toList, Array.size_extract] at inside
    have exists' : start + ordinal < members.size := by omega
    simp [exists']

/-- A set of points that starts at a position gives its coordinates in order. -/
theorem pointSet?_eq (points : PointSet) (context : ShapeContext)
    (start : 0 ≤ points.startIndex) :
    ∃ vertices, pointSet? points context = Mesh.ofVertices? .points vertices ∧
      vertices.map (·.position) =
        (context.coordinates.extract points.startIndex.toNat (pointStop points context)).toList := by
  have position : asPosition? points.startIndex = some points.startIndex.toNat :=
    if_neg (Int.not_lt.2 start)
  by_cases all : points.numPoints < 0
  · have count : asPosition? points.numPoints = none := if_pos all
    simp only [pointSet?, position, count, Option.bind_eq_bind, Option.bind_some]
    refine ⟨_, rfl, ?_⟩
    rw [pointStop, if_pos all, ← map_getD_range _ .zero le_rfl, List.map_map]
    rfl
  · have count : asPosition? points.numPoints = some points.numPoints.toNat := if_neg all
    have sum : (points.startIndex + points.numPoints).toNat =
        points.startIndex.toNat + points.numPoints.toNat := by omega
    simp only [pointSet?, position, count, Option.bind_eq_bind, Option.bind_some]
    refine ⟨_, rfl, ?_⟩
    rw [pointStop, if_neg all, sum, ← map_getD_range _ .zero (Nat.min_le_right ..), List.map_map]
    rfl

/-! ### Meshes of lines and points -/

/-- The lines give a mesh exactly if there is a stroke, and it has two vertices for
    each stroke, in order, at the coordinates of its two entries. Its indices run over
    all vertices, as long as 32 bits can count these; otherwise there are as many as the
    lowest 32 bits of the count say. -/
theorem lineSet?_of_strokes (shape : IndexedShape) (context : ShapeContext) :
    (lineSet? shape context = none ↔ strokes shape context = []) ∧
    ∀ mesh, lineSet? shape context = some mesh →
      mesh.topology = .lines ∧ mesh.vertices.length = 2 * (strokes shape context).length ∧
      mesh.indices = some (List.range (mesh.vertices.length % 2 ^ 32)) ∧
      (mesh.vertices.length < 2 ^ 32 →
        mesh.indices = some (List.range mesh.vertices.length)) ∧
      mesh.vertices.map (fun vertex => some vertex.position) =
        (strokes shape context).flatMap fun (a, b) =>
          [context.coordinates[a.index.toNat]?, context.coordinates[b.index.toNat]?] := by
  let vertices := (runs shape.coordIndex).zipIdx.flatMap fun (run, line) =>
    lineVertices shape context line run
  have made : lineSet? shape context = Mesh.indexed? .lines vertices := rfl
  have places : vertices.map (fun vertex => some vertex.position) =
      (strokes shape context).flatMap fun (a, b) =>
        [context.coordinates[a.index.toNat]?, context.coordinates[b.index.toNat]?] := by
    refine map_lineVertices shape context _
      (fun entry => context.coordinates[entry.index.toNat]?) ?_
    intro segment isSegment entry among inside line
    have isIndex := (entry_of_mem_segments isSegment among).2
    have exists' : entry.index.toNat < context.coordinates.size := by omega
    simp [lineVertex, Corner.point, Entry.corner, exists']
  have count : vertices.length = 2 * (strokes shape context).length := by
    have length := congrArg List.length places
    simp only [List.length_map, List.length_flatMap, List.length_cons, List.length_nil,
      List.map_const', List.sum_replicate_nat] at length
    omega
  constructor
  · rw [made, Mesh.indexed?_eq_none_iff, ← List.length_eq_zero_iff, ← List.length_eq_zero_iff,
      count]
    omega
  · intro mesh isMesh
    obtain rfl := Mesh.eq_of_indexed? (made.symm.trans isMesh)
    refine ⟨rfl, count, rfl, ?_, places⟩
    intro within
    exact congrArg (some ∘ List.range) (Nat.mod_eq_of_lt within)

/-- A set of points gives the coordinates of its range in order, and no mesh if it
    starts at no position or has none of them. -/
theorem pointSet?_of_range (points : PointSet) (context : ShapeContext) :
    (pointSet? points context = none ↔
      points.startIndex < 0 ∨ pointStop points context ≤ points.startIndex) ∧
    ∀ mesh, pointSet? points context = some mesh →
      mesh.topology = .points ∧ mesh.indices = none ∧
      mesh.vertices.map (·.position) =
        (context.coordinates.extract points.startIndex.toNat
          (pointStop points context)).toList := by
  by_cases start : 0 ≤ points.startIndex
  · obtain ⟨vertices, made, places⟩ := pointSet?_eq points context start
    constructor
    · have within := pointStop_le points context
      rw [made, Mesh.ofVertices?_eq_none_iff, ← List.map_eq_nil_iff, places,
        ← List.length_eq_zero_iff, Array.length_toList, Array.size_extract]
      omega
    · intro mesh isMesh
      obtain rfl := Mesh.eq_of_ofVertices? (made.symm.trans isMesh)
      exact ⟨rfl, rfl, places⟩
  · have nowhere : asPosition? points.startIndex = none := if_pos (Int.not_le.1 start)
    have noMesh : pointSet? points context = none := by simp [pointSet?, nowhere]
    exact ⟨by simp [noMesh, Int.not_le.1 start], by simp [noMesh]⟩

/-- An end of a line and a corner without a coordinate both leave a gap. -/
example :
    strokes { coordIndex := #[0, 1, -1, 2, 9, 1, 0] }
        { coordinates := #[.zero, .zero, .zero], segments := 0 } =
      [(⟨0, 0⟩, ⟨1, 1⟩), (⟨1, 5⟩, ⟨0, 6⟩)] := by
  decide

end Tessellation

end VrmlWorld
