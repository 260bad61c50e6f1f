/-
  VrmlWorld/Proofs/Document/AsRead.lean
  =====================================
  **Scenes as they come out of a text.**

  A reader makes kinds of nodes only from the values of their types, and it
  changes values only by reading fields. So what the initial values of a type
  have, and no field takes away, all its nodes have (`readRoot?_only`). No field
  says how far an inline has come: in a scene that has just been read, every
  inline is still to be asked for.
-/
import VrmlWorld.Proofs.Document.Reading
import VrmlWorld.Proofs.Scene.Handles

namespace VrmlWorld

namespace Document

/-! ### Kinds that a reader makes -/

/-- Something holds of the initial values of a type, every field keeps it, and
    it makes the kinds of the type allowed. -/
def NodeType.Allows (allowed : NodeKind → Prop) (type : NodeType) : Prop :=
  ∃ fine : type.Values → Prop, fine type.initial ∧
    (∀ field ∈ type.fields, ∀ values tokens, fine values → fine (field.read values tokens).1) ∧
    ∀ values, fine values → allowed (type.kind values)

theorem NodeType.allows_of_forall {allowed : NodeKind → Prop} {type : NodeType}
    (h : ∀ values, allowed (type.kind values)) : type.Allows allowed :=
  ⟨fun _ => True, trivial, fun _ _ _ _ _ => trivial, fun values _ => h values⟩

section Fields

variable {σ : Type} {fields : List (Field σ)} {fine : σ → Prop}

theorem field_of_fieldOf? {token : Token} {field : Field σ} (h : fieldOf? fields token = some field) :
    field ∈ fields := by
  cases token with
  | word name => exact List.mem_of_find?_eq_some h
  | _ => cases h

theorem readFields_fine
    (keeps : ∀ field ∈ fields, ∀ values tokens, fine values → fine (field.read values tokens).1)
    (values : σ) (tokens : List Token) (h : fine values) :
    fine (readFields fields values tokens).1 := by
  fun_induction readFields fields values tokens with
  | case1 => exact h
  | case2 => exact h
  | case3 values name tokens field found ih =>
    exact ih (keeps field (field_of_fieldOf? found) values tokens h)
  | case4 values name tokens _ ih => exact ih h
  | case5 values token tokens _ _ ih => exact ih h

end Fields

/-- The kinds of a form are those of its node types. The children of a node are
    read while its values are still changing, so both are followed together. -/
theorem readForm_only_and_readChildren_only {allowed : NodeKind → Prop}
    (typed : ∀ {name type}, NodeType.named? name = some type → type.Allows allowed)
    (unknown : ∀ name, allowed (.unknown name)) :
    (∀ (first : Token) (tokens : List Token), ∀ form ∈ (readForm first tokens).1,
      form.Only allowed) ∧
    (∀ (σ : Type) (fields : List (Field σ)) (values : σ) (found : List Form)
      (tokens : List Token) (fine : σ → Prop),
      (∀ field ∈ fields, ∀ values tokens, fine values → fine (field.read values tokens).1) →
      fine values → (∀ form ∈ found, form.Only allowed) →
      fine (readChildren fields values found tokens).1.1 ∧
        ∀ form ∈ (readChildren fields values found tokens).1.2, form.Only allowed) := by
  apply readForm.mutual_induct
  case case1 =>
    intro name next behind starts form rest read ih
    rw [read] at ih
    simp only [readForm, starts, if_true, read]
    intro named member
    obtain ⟨own, isOwn, rfl⟩ := Option.map_eq_some_iff.1 member
    exact .named (ih own isOwn)
  case case2 =>
    intro name next behind stops form member
    simp [readForm, stops] at member
  case case3 =>
    intro text form member
    simp [readForm] at member
  case case4 =>
    intro tokens noNode noName form member
    rw [readForm] at member
    · cases member
    · exact noNode
    · exact noName
  case case5 =>
    intro name behind form member
    simp only [readForm, Option.mem_def, Option.some.injEq] at member
    subst member
    exact .reuse
  case case6 =>
    intro tokens noName form member
    rw [readForm] at member
    · cases member
    · exact noName
  case case7 =>
    intro tokens typeName absent form member
    simp only [readForm, absent, Option.mem_def, Option.some.injEq] at member
    subst member
    exact .node (unknown typeName) (by simp)
  case case8 =>
    intro typeName type known tokens parent values children rest read ih form member
    simp only [readForm, known, parent, if_true, read, Option.mem_def, Option.some.injEq] at member
    subst member
    obtain ⟨fine, initial, keeps, kinds⟩ := typed known
    obtain ⟨values, below⟩ := ih fine keeps initial (by simp)
    rw [read] at values below
    exact .node (kinds _ values) below
  case case9 =>
    intro typeName type known tokens single form member
    simp only [readForm, known, single, Option.mem_def] at member
    simp only [Bool.false_eq_true, if_false, Option.some.injEq] at member
    subst member
    obtain ⟨fine, initial, keeps, kinds⟩ := typed known
    exact .node (kinds _ (readFields_fine keeps _ _ initial)) (by simp)
  case case10 =>
    intro typeName type known tokens noBody form member
    obtain ⟨fine, initial, keeps, kinds⟩ := typed known
    simp only [readForm, known] at member
    cases member
    exact .node (kinds _ initial) (by simp)
  case case11 =>
    intro first tokens noDefine noReuse noWord form member
    cases first <;> simp_all [readForm]
  case case12 =>
    intro σ fields values found fine keeps h only
    simpa [readChildren] using ⟨h, only⟩
  case case13 =>
    intro σ fields values found tokens fine keeps h only
    simpa [readChildren] using ⟨h, only⟩
  case case14 =>
    intro σ fields values found head tokens open' field named result rest read ih fine keeps h only
    rw [readChildren.eq_3 _ _ _ _ _ open']
    simp only [named]
    exact ih fine keeps (keeps field (field_of_fieldOf? named) values tokens h) only
  case case15 =>
    intro σ fields values found head tokens open' unnamed form rest read result rest' readRest ih ihRest
      fine keeps h only
    obtain rfl : (readForm head tokens).1 = form := by rw [read]
    obtain rfl : (readForm head tokens).2 = rest := by rw [read]
    rw [readChildren.eq_3 _ _ _ _ _ open']
    simp only [unnamed]
    refine ihRest fine keeps h ?_
    intro other member
    obtain own | old := List.mem_append.1 member
    · exact ih other (by simpa using own)
    · exact only other old

/-- The nodes of a text are of kinds that the node types allow. -/
theorem readRoot?_only {allowed : NodeKind → Prop}
    (typed : ∀ {name type}, NodeType.named? name = some type → type.Allows allowed)
    (unknown : ∀ name, allowed (.unknown name)) {tokens : List Token} {form : Form}
    (h : readRoot? tokens = some form) : form.Only allowed := by
  cases tokens with
  | nil => cases h
  | cons first behind =>
    exact (readForm_only_and_readChildren_only typed unknown).1 first behind form h

end Document

/-! ### Inlines -/

/-- An inline that nothing has been done about. -/
def NodeKind.Unasked (kind : NodeKind) : Prop :=
  ∀ inline, kind = .inline inline → inline.status = .pending ∧ inline.location = none

namespace Document

theorem NodeType.allows_unasked_of_mem_table :
    ∀ row ∈ NodeType.table, row.2.Allows NodeKind.Unasked := by
  have other {type : NodeType} (h : ∀ values inline, type.kind values ≠ .inline inline) :
      type.Allows NodeKind.Unasked :=
    NodeType.allows_of_forall fun values inline same => absurd same (h values inline)
  have inline : NodeType.inline.Allows NodeKind.Unasked := by
    refine ⟨fun values => values.status = .pending ∧ values.location = none, ⟨rfl, rfl⟩, ?_, ?_⟩
    · refine List.forall_mem_cons.2 ⟨fun _ _ fine => fine, ?_⟩
      refine List.forall_mem_cons.2 ⟨fun _ _ fine => fine, ?_⟩
      exact List.forall_mem_cons.2 ⟨fun _ _ fine => fine, List.forall_mem_nil _⟩
    · rintro values fine inline ⟨⟩
      exact fine
  simp only [NodeType.table, List.forall_mem_cons]
  and_intros
  all_goals
    first
    | exact inline
    | exact other fun _ _ same => nomatch same
    | exact List.forall_mem_nil _

theorem NodeType.allows_unasked {name : String} {type : NodeType}
    (h : NodeType.named? name = some type) : type.Allows NodeKind.Unasked := by
  obtain ⟨before, behind, rows, -⟩ := List.lookup_eq_some_iff.1 h
  exact NodeType.allows_unasked_of_mem_table (name, type) (by simp [rows])

end Document

/-! ### Scenes that are read -/

namespace SceneGraph

/-- What is common to all scenes that have just been read. -/
structure AsRead (graph : SceneGraph) : Prop extends graph.Regular where
  unasked : ∀ id node, graph.get? id = some node → node.kind.Unasked

theorem asRead_empty : empty.AsRead :=
  ⟨regular_empty, fun id node found => by simp at found⟩

theorem AsRead.setBase {graph : SceneGraph} (asRead : graph.AsRead) (base : Option Location) :
    { graph with base }.AsRead :=
  ⟨asRead.toRegular.setBase base, asRead.unasked⟩

end SceneGraph

namespace Document

theorem Assembly.Step.allowed {allowed : NodeKind → Prop} {before after : Assembly}
    (step : Assembly.Step allowed before after)
    (h : ∀ id node, before.graph.get? id = some node → allowed node.kind) :
    ∀ id node, after.graph.get? id = some node → allowed node.kind := by
  intro id node found
  cases step with
  | store own stored =>
    rw [Assembly.graph_store, SceneGraph.get?_insert] at found
    split at found
    · cases found
      exact own
    · exact h id node found
  | giveName name stored =>
    rw [Assembly.graph_giveName, SceneGraph.get?_modify] at found
    split at found
    · obtain ⟨old, own, rfl⟩ := Option.map_eq_some_iff.1 found
      exact h id old own
    · exact h id node found
  | countUnresolved => exact h id node found

theorem asRead_of_parse? {text : String} {graph : SceneGraph} {stats : Stats}
    (h : parse? text = some (graph, stats)) : graph.AsRead := by
  refine ⟨⟨(wellFormed_of_parse? h).1, kept_of_parse? h⟩, ?_⟩
  obtain ⟨form, root, read, -, rfl, -⟩ := parse?_eq_some h
  have only : form.Only NodeKind.Unasked :=
    readRoot?_only NodeType.allows_unasked (fun name inline same => nomatch same) read
  have steps := Assembly.add_steps only Assembly.Orderly.empty
  refine steps.invariant (P := fun assembly => ∀ id node,
    assembly.graph.get? id = some node → node.kind.Unasked) Assembly.Step.allowed ?_
  intro id node found
  simp [SceneGraph.get?] at found

end Document

end VrmlWorld
