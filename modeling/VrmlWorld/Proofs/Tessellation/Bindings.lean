/-
  VrmlWorld/Proofs/Tessellation/Bindings.lean
  ===========================================
  **Bindings that draw the same mesh.**

  A binding matters to a shape only by the number that it goes by at each corner.
  The vertex bindings look at the position of a corner, ends of runs included, and
  at the number of its coordinate; the face bindings look at the ordinal of a run,
  runs that are not drawn included. Where these look-ups give the same number
  (`Alike`), so do the bindings at every corner, drawn or not
  (`Alike.boundPosition?_eq`), and the meshes are equal.
-/
import VrmlWorld.Proofs.Tessellation.Lines

namespace VrmlWorld

/-- The same properties under other bindings. -/
def ShapeContext.withBindings (context : ShapeContext) (material normal : Binding) :
    ShapeContext :=
  { context with materialBinding := material, normalBinding := normal }

namespace Tessellation

/-! ### Bindings -/

/-- Two bindings that go by the same numbers in the runs of `coordIndex`, when the
    indexed ones look into `indices`. -/
inductive Alike (coordIndex indices : Array Int) : Binding → Binding → Prop where
  | same (binding : Binding) : Alike coordIndex indices binding binding
  /-- The list of indices is that of the coordinates, or is not there. -/
  | vertices (list : indices = coordIndex ∨ indices = #[]) :
      Alike coordIndex indices .perVertex .perVertexIndexed
  /-- The list of indices counts the runs, or is not there. -/
  | faces (list : indices = #[] ∨
        ∀ run < (segments coordIndex).length, indices[run]? = some (run : Int)) :
      Alike coordIndex indices .perFace .perFaceIndexed
  | parts : Alike coordIndex indices .perPart .perFace
  | indexedParts : Alike coordIndex indices .perPartIndexed .perFaceIndexed

/-- Bindings that are alike go by the same number at every corner. -/
theorem Alike.boundPosition?_eq {coordIndex indices : Array Int} {binding other : Binding}
    (alike : Alike coordIndex indices binding other) {segment : List Entry} {run : Nat}
    (isRun : (segment, run) ∈ (segments coordIndex).zipIdx) :
    ∀ entry ∈ segment, boundPosition? binding run entry.corner indices =
      boundPosition? other run entry.corner indices := by
  intro entry among
  cases alike with
  | same => rfl
  | vertices list =>
    simp only [boundPosition?]
    split
    · rfl
    · rename_i listed
      obtain rfl | rfl := list
      · obtain ⟨found, isIndex⟩ := entry_of_mem_segments (List.fst_mem_of_mem_zipIdx isRun) among
        have here : positionAt? indices entry.position = some entry.index.toNat := by
          rw [positionAt?, found, Option.bind_some, asPosition?, if_neg (Int.not_lt.2 isIndex)]
        exact here.symm
      · exact absurd rfl listed
  | faces list =>
    simp only [boundPosition?]
    split
    · rfl
    · rename_i listed
      obtain rfl | counted := list
      · exact absurd rfl listed
      · have before := List.snd_lt_of_mem_zipIdx isRun
        have here : positionAt? indices run = some run := by
          rw [positionAt?, counted run (by omega), Option.bind_some, asPosition?,
            if_neg (by omega), Int.toNat_natCast]
        exact here.symm
  | parts => rfl
  | indexedParts => rfl

/-! ### Vertices -/

section Vertices

variable {shape : IndexedShape} {material material' normal normal' : Binding}
  {segment : List Entry} {run : Nat}

theorem faceVertex_alike (context : ShapeContext)
    (materials : Alike shape.coordIndex shape.materialIndex material material')
    (normals : Alike shape.coordIndex shape.normalIndex normal normal')
    (isRun : (segment, run) ∈ (segments shape.coordIndex).zipIdx) (flat : Geometry.Vec3) :
    ∀ entry ∈ segment,
      faceVertex shape (context.withBindings material normal) run flat entry.corner =
        faceVertex shape (context.withBindings material' normal') run flat entry.corner := by
  intro entry among
  simp only [faceVertex, boundColor?, ShapeContext.withBindings,
    materials.boundPosition?_eq isRun entry among, normals.boundPosition?_eq isRun entry among]
  rfl

/-- Without a binding, and under the one for the whole, lines have the color in
    effect and not one from the palette; each of these is alike to itself only. -/
theorem lineVertex_alike (context : ShapeContext)
    (materials : Alike shape.coordIndex shape.materialIndex material material')
    (isRun : (segment, run) ∈ (segments shape.coordIndex).zipIdx) :
    ∀ entry ∈ segment,
      lineVertex shape (context.withBindings material normal) run entry.corner =
        lineVertex shape (context.withBindings material' normal') run entry.corner := by
  intro entry among
  have position := materials.boundPosition?_eq isRun entry among
  cases materials with
  | same => rfl
  | _ =>
    simp only [lineVertex, boundColor?, ShapeContext.withBindings, position]
    rfl

end Vertices

/-! ### Meshes -/

/-- Alike bindings draw the same faces and the same lines, whatever the indices: the
    material binding and the normal binding can each be exchanged for one that is
    alike. -/
theorem meshes_of_alike_bindings {shape : IndexedShape}
    {material material' normal normal' : Binding} (context : ShapeContext)
    (materials : Alike shape.coordIndex shape.materialIndex material material')
    (normals : Alike shape.coordIndex shape.normalIndex normal normal') :
    faceSet? shape (context.withBindings material normal) =
        faceSet? shape (context.withBindings material' normal') ∧
      lineSet? shape (context.withBindings material normal) =
        lineSet? shape (context.withBindings material' normal') := by
  let before := context.withBindings material normal
  let after := context.withBindings material' normal'
  have faces : ((runs shape.coordIndex).zipIdx.flatMap fun run =>
        faceVertices shape before run.2 run.1) =
      (runs shape.coordIndex).zipIdx.flatMap fun run =>
        faceVertices shape after run.2 run.1 := by
    have drawable : drawableFaces shape before = drawableFaces shape after := rfl
    rw [flatMap_faceVertices, flatMap_faceVertices, drawable]
    refine List.flatMap_congr ?_
    rintro ⟨segment, face⟩ member
    refine List.map_congr_left fun drawn isCorner => ?_
    obtain ⟨entry, among, rfl⟩ := exists_entry_of_mem_faceCorners isCorner
    exact faceVertex_alike context materials normals (List.mem_of_mem_filter member) _ entry among
  have lines : ((runs shape.coordIndex).zipIdx.flatMap fun run =>
        lineVertices shape before run.2 run.1) =
      (runs shape.coordIndex).zipIdx.flatMap fun run =>
        lineVertices shape after run.2 run.1 := by
    rw [flatMap_lineVertices, flatMap_lineVertices]
    refine List.flatMap_congr ?_
    rintro ⟨segment, line⟩ member
    refine List.flatMap_congr ?_
    rintro ⟨a, b⟩ stroke
    obtain ⟨⟨amongA, -⟩, amongB, -⟩ := mem_strokesOf stroke
    have alike : ∀ entry ∈ segment, lineVertex shape before line entry.corner =
        lineVertex shape after line entry.corner := lineVertex_alike context materials member
    exact congrArg₂ (fun a b => [a, b]) (alike a amongA) (alike b amongB)
  exact ⟨congrArg (Mesh.ofVertices? .triangles) faces, congrArg (Mesh.indexed? .lines) lines⟩

/-- A list of indices with an empty run, a run of a single corner that has no coordinate,
    and no end behind the last run: four runs, of which five indices count more than
    there are. -/
theorem meshes_of_broken_runs :
    let shape : IndexedShape :=
      { coordIndex := #[0, 1, 2, -1, 7, -1, -1, 2, 1, 0]
        materialIndex := #[0, 1, 2, 3, 4]
        normalIndex := #[0, 1, 2, -1, 7, -1, -1, 2, 1, 0] }
    let context : ShapeContext :=
      { coordinates := #[.zero, ⟨1, 0, 0⟩, ⟨0, 1, 0⟩], normals := #[⟨1, 0, 0⟩, ⟨0, 1, 0⟩]
        palette := #[.zero, ⟨1, 0, 0⟩, ⟨0, 1, 0⟩, ⟨0, 0, 1⟩], segments := 0 }
    Alike shape.coordIndex shape.materialIndex .perFace .perFaceIndexed ∧
      Alike shape.coordIndex shape.normalIndex .perVertex .perVertexIndexed ∧
      faceSet? shape (context.withBindings .perFace .perVertex) =
        faceSet? shape (context.withBindings .perFaceIndexed .perVertexIndexed) ∧
      lineSet? shape (context.withBindings .perFace .perVertex) =
        lineSet? shape (context.withBindings .perFaceIndexed .perVertexIndexed) :=
  ⟨.faces (.inr (by decide)), .vertices (.inl rfl),
    meshes_of_alike_bindings _ (.faces (.inr (by decide))) (.vertices (.inl rfl))⟩

end Tessellation

end VrmlWorld
