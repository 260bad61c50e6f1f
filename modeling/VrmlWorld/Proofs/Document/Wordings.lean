/-
  VrmlWorld/Proofs/Document/Wordings.lean
  =======================================
  **Every node type reads the nodes that are worded with its name.**

  The table of node types meets the grammar of writers. Its types set their
  fields independently of each other (`NodeType.apart_of_mem_table`), so the
  order of the written fields is of no account, and what they settle is the
  kind that was written (`Wording.reads`).
-/
import Mathlib.Data.List.Pairwise
import Mathlib.Data.List.Perm.Basic
import VrmlWorld.Proofs.Document.ReadingBack

namespace VrmlWorld.Document

open VrmlWorld.Geometry

/-! ### Order of fields -/

/-- Two parts of the values of a node are set independently. -/
def Field.Apart {σ : Type} (f g : Field σ) : Prop :=
  ∀ a b values, f.set a (g.set b values) = g.set b (f.set a values)

theorem NodeType.apart_of_mem_table :
    ∀ row ∈ NodeType.table, row.2.fields.Pairwise Field.Apart := by
  simp only [NodeType.table, List.forall_mem_cons]
  and_intros
  all_goals
    repeat' first
      | exact List.Pairwise.nil
      | exact List.forall_mem_nil _
      | refine List.Pairwise.cons ?_ ?_
      | refine List.forall_mem_cons.2 ⟨fun _ _ _ => rfl, ?_⟩

theorem NodeType.apart_of_named? {name : String} {type : NodeType}
    (named : NodeType.named? name = some type) : type.fields.Pairwise Field.Apart := by
  obtain ⟨before, behind, rows, -⟩ := List.lookup_eq_some_iff.1 named
  exact NodeType.apart_of_mem_table (name, type) (by simp [rows])

section Order

variable {σ : Type} {fields : List (Field σ)} {entries order : List Entry}
  {updates : List (σ → σ)}

/-- Entries of different names change the values independently of each other. -/
theorem commute_of_reads (apart : fields.Pairwise Field.Apart) {e e' : Entry} {u u' : σ → σ}
    (reads : Reads fields e u) (reads' : Reads fields e' u') (different : e.name ≠ e'.name)
    (values : σ) : u (u' values) = u' (u values) := by
  obtain ⟨-, field, a, named, -, rfl⟩ := reads
  obtain ⟨-, field', b, named', -, rfl⟩ := reads'
  simp only [fieldOf?] at named named'
  have symmetric : Std.Symm (Field.Apart (σ := σ)) := ⟨fun f g h a b values => (h b a values).symm⟩
  have differs : field ≠ field' := by
    rintro rfl
    have name : field.name = e.name := by simpa using List.find?_some named
    have name' : field.name = e'.name := by simpa using List.find?_some named'
    exact different (name.symm.trans name')
  exact apart.forall (List.mem_of_find?_eq_some named) (List.mem_of_find?_eq_some named') differs
    a b values

theorem exists_reads_of_mem {fields : List (Field σ)} {entries : List Entry}
    {updates : List (σ → σ)} (reads : List.Forall₂ (Reads fields) entries updates) {u : σ → σ}
    (member : u ∈ updates) : ∃ e ∈ entries, Reads fields e u := by
  induction reads with
  | nil => cases member
  | @cons e _ entries _ first others ih =>
    rcases List.mem_cons.1 member with rfl | later
    · exact ⟨e, List.mem_cons_self, first⟩
    · obtain ⟨e', memberEntry, reads⟩ := ih later
      exact ⟨e', List.mem_cons_of_mem e memberEntry, reads⟩

theorem pairwise_of_reads {entries : List Entry} {updates : List (σ → σ)}
    (apart : fields.Pairwise Field.Apart) (reads : List.Forall₂ (Reads fields) entries updates)
    (distinct : (entries.map (·.name)).Nodup) :
    updates.Pairwise fun u u' => ∀ values, u (u' values) = u' (u values) := by
  induction reads with
  | nil => exact .nil
  | @cons e u entries updates first others ih =>
    obtain ⟨fresh, distinct⟩ := List.nodup_cons.1 distinct
    refine .cons ?_ (ih distinct)
    intro u' member values
    obtain ⟨e', memberEntry, reads'⟩ := exists_reads_of_mem others member
    have different : e.name ≠ e'.name := by
      intro same
      exact fresh (List.mem_map.2 ⟨e', memberEntry, same.symm⟩)
    exact commute_of_reads apart first reads' different values

/-- Written in another order, the same entries settle the same values. -/
theorem settled_of_perm {entries order : List Entry} {updates : List (σ → σ)}
    (apart : fields.Pairwise Field.Apart) (reads : List.Forall₂ (Reads fields) entries updates)
    (distinct : (entries.map (·.name)).Nodup) (anyOrder : order.Perm entries) (values : σ) :
    ∃ reordered, List.Forall₂ (Reads fields) order reordered ∧
      settled reordered values = settled updates values := by
  obtain ⟨reordered, readsOrder, perm⟩ := List.perm_comp_forall₂ anyOrder reads
  have symmetric : Std.Symm fun u u' : σ → σ => ∀ values, u (u' values) = u' (u values) :=
    ⟨fun u u' commute values => (commute values).symm⟩
  have commute := (pairwise_of_reads apart reads distinct).forall_of_forall fun u _ values => rfl
  refine ⟨reordered, readsOrder, (perm.symm.foldl_eq' ?_ values).symm⟩
  intro u member u' member' values
  exact (commute member member' values).symm

end Order

/-! ### Keywords -/

section Keywords

open Single

theorem anchorMap_takes (map : AnchorMap) :
    (keyword AnchorMap.none [("POINT", .point)]).Takes (.words [anchorMapWord map]) map :=
  keyword_takes (by cases map <;> rfl)

theorem wrap_takes (wrap : TextureWrap) : NodeType.wrap.Takes (.words [wrapWord wrap]) wrap :=
  keyword_takes (by cases wrap <;> rfl)

theorem binding_takes (binding : Binding) :
    (keyword .default NodeType.bindings).Takes (.words [bindingWord binding]) binding :=
  keyword_takes (by cases binding <;> rfl)

theorem ordering_takes (ordering : VertexOrdering) :
    (keyword VertexOrdering.unknown
      [("CLOCKWISE", .clockwise), ("COUNTERCLOCKWISE", .counterClockwise)]).Takes
      (.words [orderingWord ordering]) ordering :=
  keyword_takes (by cases ordering <;> rfl)

theorem shapeType_takes (solid : Bool) :
    (keyword false [("SOLID", true)]).Takes (.words [shapeTypeWord solid]) solid :=
  keyword_takes (by cases solid <;> rfl)

theorem faceType_takes (convex : Bool) :
    (keyword true [("UNKNOWN_FACE_TYPE", false)]).Takes (.words [faceTypeWord convex]) convex :=
  keyword_takes (by cases convex <;> rfl)

theorem family_takes (family : FontFamily) :
    (keyword FontFamily.serif [("SANS", .sans), ("TYPEWRITER", .typewriter)]).Takes
      (.words [familyWord family]) family :=
  keyword_takes (by cases family <;> rfl)

theorem cut_takes (cut : FontCut) :
    (keyword FontCut.regular [("BOLD", .bold), ("ITALIC", .italic)]).Takes (.words [cutWord cut])
      cut :=
  keyword_takes (by cases cut <;> rfl)

theorem justification_takes (justification : Justification) :
    (keyword Justification.left [("CENTER", .center), ("RIGHT", .right)]).Takes
      (.words [justificationWord justification]) justification :=
  keyword_takes (by cases justification <;> rfl)

end Keywords

/-! ### The table -/

open Single in
/-- The node type of a wording reads its entries as the kind that is worded. -/
theorem Wording.reads {kind : NodeKind} {typeName : String} {entries : List Entry}
    (wording : Wording kind typeName entries) :
    ∃ type, NodeType.named? typeName = some type ∧ type.parent = isInner kind ∧
      ∃ updates, List.Forall₂ (Reads type.fields) entries updates ∧
        type.kind (settled updates type.initial) = kind := by
  cases wording with
  | separator => exact ⟨_, rfl, rfl, _, .nil, rfl⟩
  | separatorCulling culling =>
    exact ⟨_, rfl, rfl, _, .cons (.of_field rfl (keyword_takes rfl).readsBack) .nil, rfl⟩
  | group => exact ⟨_, rfl, rfl, _, .nil, rfl⟩
  | transformSeparator => exact ⟨_, rfl, rfl, _, .nil, rfl⟩
  | switch switch =>
    exact ⟨_, rfl, rfl, _, .cons (.of_field rfl (whole_takes _).readsBack) .nil, rfl⟩
  | lod lod =>
    exact ⟨_, rfl, rfl, _, .cons (.of_field rfl (list_readsBack float_takes _)) <|
      .cons (.of_field rfl (vec3_takes _).readsBack) .nil, rfl⟩
  | anchor anchor =>
    exact ⟨_, rfl, rfl, _, .cons (.of_field rfl (text_takes _).readsBack) <|
      .cons (.of_field rfl (text_takes _).readsBack) <|
      .cons (.of_field rfl (anchorMap_takes _).readsBack) .nil, rfl⟩
  | inline url bboxSize bboxCenter =>
    exact ⟨_, rfl, rfl, _, .cons (.of_field rfl (text_takes _).readsBack) <|
      .cons (.of_field rfl (vec3_takes _).readsBack) <|
      .cons (.of_field rfl (vec3_takes _).readsBack) .nil, rfl⟩
  | transform transform =>
    exact ⟨_, rfl, rfl, _, .cons (.of_field rfl (vec3_takes _).readsBack) <|
      .cons (.of_field rfl (vec4_takes _).readsBack) <|
      .cons (.of_field rfl (vec3_takes _).readsBack) <|
      .cons (.of_field rfl (vec4_takes _).readsBack) <|
      .cons (.of_field rfl (vec3_takes _).readsBack) .nil, rfl⟩
  | translation translation =>
    exact ⟨_, rfl, rfl, _, .cons (.of_field rfl (vec3_takes _).readsBack) .nil, rfl⟩
  | rotation rotation =>
    exact ⟨_, rfl, rfl, _, .cons (.of_field rfl (vec4_takes _).readsBack) .nil, rfl⟩
  | scale scaleFactor =>
    exact ⟨_, rfl, rfl, _, .cons (.of_field rfl (vec3_takes _).readsBack) .nil, rfl⟩
  | matrixTransform matrix =>
    exact ⟨_, rfl, rfl, _, .cons (.of_field rfl (matrix_readsBack _)) .nil, rfl⟩
  | material material =>
    exact ⟨_, rfl, rfl, _, .cons (.of_field rfl (array_readsBack vec3_takes _)) <|
      .cons (.of_field rfl (array_readsBack vec3_takes _)) <|
      .cons (.of_field rfl (array_readsBack vec3_takes _)) <|
      .cons (.of_field rfl (array_readsBack vec3_takes _)) <|
      .cons (.of_field rfl (array_readsBack float_takes _)) <|
      .cons (.of_field rfl (array_readsBack float_takes _)) .nil, rfl⟩
  | texture2 texture =>
    exact ⟨_, rfl, rfl, _, .cons (.of_field rfl (text_takes _).readsBack) <|
      .cons (.of_field rfl (wrap_takes _).readsBack) <|
      .cons (.of_field rfl (wrap_takes _).readsBack) .nil, rfl⟩
  | texture2Transform transform =>
    exact ⟨_, rfl, rfl, _, .cons (.of_field rfl (vec2_takes _).readsBack) <|
      .cons (.of_field rfl (float_takes _).readsBack) <|
      .cons (.of_field rfl (vec2_takes _).readsBack) <|
      .cons (.of_field rfl (vec2_takes _).readsBack) .nil, rfl⟩
  | textureCoordinate2 points =>
    exact ⟨_, rfl, rfl, _, .cons (.of_field rfl (array_readsBack vec2_takes _)) .nil, rfl⟩
  | coordinate3 points =>
    exact ⟨_, rfl, rfl, _, .cons (.of_field rfl (array_readsBack vec3_takes _)) .nil, rfl⟩
  | normal vectors =>
    exact ⟨_, rfl, rfl, _, .cons (.of_field rfl (array_readsBack vec3_takes _)) .nil, rfl⟩
  | normalBinding binding =>
    exact ⟨_, rfl, rfl, _, .cons (.of_field rfl (binding_takes _).readsBack) .nil, rfl⟩
  | materialBinding binding =>
    exact ⟨_, rfl, rfl, _, .cons (.of_field rfl (binding_takes _).readsBack) .nil, rfl⟩
  | shapeHints hints =>
    exact ⟨_, rfl, rfl, _, .cons (.of_field rfl (ordering_takes _).readsBack) <|
      .cons (.of_field rfl (shapeType_takes _).readsBack) <|
      .cons (.of_field rfl (faceType_takes _).readsBack) <|
      .cons (.of_field rfl (float_takes _).readsBack) .nil, rfl⟩
  | directionalLight on intensity color direction =>
    exact ⟨_, rfl, rfl, _, .cons (.of_field rfl (truth_takes _).readsBack) <|
      .cons (.of_field rfl (float_takes _).readsBack) <|
      .cons (.of_field rfl (vec3_takes _).readsBack) <|
      .cons (.of_field rfl (vec3_takes _).readsBack) .nil, rfl⟩
  | pointLight on intensity color location =>
    exact ⟨_, rfl, rfl, _, .cons (.of_field rfl (truth_takes _).readsBack) <|
      .cons (.of_field rfl (float_takes _).readsBack) <|
      .cons (.of_field rfl (vec3_takes _).readsBack) <|
      .cons (.of_field rfl (vec3_takes _).readsBack) .nil, rfl⟩
  | spotLight on intensity color location direction dropOffRate cutOffAngle =>
    exact ⟨_, rfl, rfl, _, .cons (.of_field rfl (truth_takes _).readsBack) <|
      .cons (.of_field rfl (float_takes _).readsBack) <|
      .cons (.of_field rfl (vec3_takes _).readsBack) <|
      .cons (.of_field rfl (vec3_takes _).readsBack) <|
      .cons (.of_field rfl (vec3_takes _).readsBack) <|
      .cons (.of_field rfl (float_takes _).readsBack) <|
      .cons (.of_field rfl (float_takes _).readsBack) .nil, rfl⟩
  | perspectiveCamera position orientation focalDistance heightAngle =>
    exact ⟨_, rfl, rfl, _, .cons (.of_field rfl (vec3_takes _).readsBack) <|
      .cons (.of_field rfl (vec4_takes _).readsBack) <|
      .cons (.of_field rfl (float_takes _).readsBack) <|
      .cons (.of_field rfl (float_takes _).readsBack) .nil, rfl⟩
  | orthographicCamera position orientation focalDistance height =>
    exact ⟨_, rfl, rfl, _, .cons (.of_field rfl (vec3_takes _).readsBack) <|
      .cons (.of_field rfl (vec4_takes _).readsBack) <|
      .cons (.of_field rfl (float_takes _).readsBack) <|
      .cons (.of_field rfl (float_takes _).readsBack) .nil, rfl⟩
  | cube cube =>
    exact ⟨_, rfl, rfl, _, .cons (.of_field rfl (float_takes _).readsBack) <|
      .cons (.of_field rfl (float_takes _).readsBack) <|
      .cons (.of_field rfl (float_takes _).readsBack) .nil, rfl⟩
  | sphere sphere =>
    exact ⟨_, rfl, rfl, _, .cons (.of_field rfl (float_takes _).readsBack) .nil, rfl⟩
  | cone cone chosen =>
    exact ⟨_, rfl, rfl, _, .cons (.of_field rfl (coneParts_readsBack chosen)) <|
      .cons (.of_field rfl (float_takes _).readsBack) <|
      .cons (.of_field rfl (float_takes _).readsBack) .nil, rfl⟩
  | cylinder cylinder chosen =>
    exact ⟨_, rfl, rfl, _, .cons (.of_field rfl (cylinderParts_readsBack chosen)) <|
      .cons (.of_field rfl (float_takes _).readsBack) <|
      .cons (.of_field rfl (float_takes _).readsBack) .nil, rfl⟩
  | indexedFaceSet shape =>
    exact ⟨_, rfl, rfl, _, .cons (.of_field rfl (array_readsBack whole_takes _)) <|
      .cons (.of_field rfl (array_readsBack whole_takes _)) <|
      .cons (.of_field rfl (array_readsBack whole_takes _)) <|
      .cons (.of_field rfl (array_readsBack whole_takes _)) .nil, rfl⟩
  | indexedLineSet shape =>
    exact ⟨_, rfl, rfl, _, .cons (.of_field rfl (array_readsBack whole_takes _)) <|
      .cons (.of_field rfl (array_readsBack whole_takes _)) <|
      .cons (.of_field rfl (array_readsBack whole_takes _)) <|
      .cons (.of_field rfl (array_readsBack whole_takes _)) .nil, rfl⟩
  | pointSet points =>
    exact ⟨_, rfl, rfl, _, .cons (.of_field rfl (whole_takes _).readsBack) <|
      .cons (.of_field rfl (whole_takes _).readsBack) .nil, rfl⟩
  | fontStyle font =>
    exact ⟨_, rfl, rfl, _, .cons (.of_field rfl (float_takes _).readsBack) <|
      .cons (.of_field rfl (family_takes _).readsBack) <|
      .cons (.of_field rfl (cut_takes _).readsBack) .nil, rfl⟩
  | asciiText text =>
    exact ⟨_, rfl, rfl, _, .cons (.of_field rfl (list_readsBack text_takes _)) <|
      .cons (.of_field rfl (float_takes _).readsBack) <|
      .cons (.of_field rfl (justification_takes _).readsBack) <|
      .cons (.of_field rfl (list_readsBack float_takes _)) .nil, rfl⟩
  | info string =>
    exact ⟨_, rfl, rfl, _, .cons (.of_field rfl (text_takes _).readsBack) .nil, rfl⟩

/-- No wording names a field twice. -/
theorem Wording.names_nodup {kind : NodeKind} {typeName : String} {entries : List Entry}
    (wording : Wording kind typeName entries) : (entries.map (·.name)).Nodup := by
  cases wording <;>
    simp [glowEntries, cameraEntries, indexedShapeEntries, Entry.number, Entry.numbers,
      Entry.whole, Entry.text, Entry.word, Entry.words, Entry.points, Entry.wholes, Entry.texts]

end VrmlWorld.Document
