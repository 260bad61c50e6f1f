/-
  VrmlWorld/Proofs/Document/Childless.lean
  ========================================
  **An inline has no children before it is filled.**

  The types whose bodies may hold children are other than that of an inline, so
  an inline is read as a form without children. Storing a form keeps its kind,
  and gives it no children when it has none; here this is followed for the root
  of a document, which stands behind any number of names.
-/
import VrmlWorld.Proofs.Document.AsRead

namespace VrmlWorld.Document

/-- The node of a form, behind its names. -/
def Form.node? : Form → Option (NodeKind × List Form)
  | .node kind children => some (kind, children)
  | .named _ form => form.node?
  | .reuse _ => none

theorem NodeType.kind_ne_inline_of_mem_table :
    ∀ row ∈ NodeType.table, row.2.parent = true → ∀ values inline,
      row.2.kind values ≠ .inline inline := by
  have inner {type : NodeType} (h : ∀ values inline, type.kind values ≠ .inline inline) :
      type.parent = true → ∀ values inline, type.kind values ≠ .inline inline := fun _ => h
  have single {type : NodeType} (h : type.parent = false) :
      type.parent = true → ∀ values inline, type.kind values ≠ .inline inline :=
    fun parent => absurd (h.symm.trans parent) Bool.false_ne_true
  simp only [NodeType.table, List.forall_mem_cons]
  and_intros
  all_goals
    first
    | exact List.forall_mem_nil _
    | exact single rfl
    | exact inner (by rintro values inline ⟨⟩)

/-- An inline is read without children. The induction is on the tokens behind the
    first one, of which a name takes some before the form that it stands for. -/
theorem childless_of_readForm {first : Token} {tokens : List Token} {form : Form}
    (read : (readForm first tokens).1 = some form) {inline : Inline} {children : List Form}
    (isInline : form.node? = some (.inline inline, children)) : children = [] := by
  induction size : tokens.length using Nat.strong_induction_on
    generalizing first tokens form with
  | _ length ih =>
  subst size
  rw [readForm.eq_def] at read
  split at read
  · split at read
    · split at read
      · obtain ⟨own, isOwn, rfl⟩ := Option.map_eq_some_iff.1 read
        refine ih _ ?_ isOwn isInline rfl
        simp only [List.length_cons]
        omega
      · cases read
    · cases read
    · cases read
  · split at read
    · cases read
      cases isInline
    · cases read
  · split at read
    · cases read
      cases isInline
    · rename_i type known
      split at read
      · split at read
        · rename_i parent
          cases read
          obtain ⟨before, behind, rows, -⟩ := List.lookup_eq_some_iff.1 known
          have row := rows ▸ List.mem_append_right before (List.mem_cons_self ..)
          -- Only here are there children, and no type with this kind of body is an inline.
          have other := NodeType.kind_ne_inline_of_mem_table _ row parent
          exact absurd (congrArg Prod.fst (Option.some.inj isInline)) (other _ inline)
        · cases read
          exact (congrArg Prod.snd (Option.some.inj isInline)).symm
      · cases read
        exact (congrArg Prod.snd (Option.some.inj isInline)).symm
  · cases read

/-- The node that a form is stored as is that of the form, when no name stands for
    one yet. -/
theorem Assembly.node_of_add {assembly next : Assembly} {form : Form} {id : NodeId}
    (unnamed : ∀ name : String, assembly.names[name]? = none)
    (added : assembly.add form = (some id, next)) :
    ∃ children node, form.node? = some (node.kind, children) ∧
      next.graph.get? id = some node ∧ (children = [] → node.children = []) := by
  induction form generalizing next with
  | node kind children _ =>
    rw [add_node] at added
    cases added
    refine ⟨children, { kind, children := (assembly.addAll children).1 }, rfl, by simp, ?_⟩
    rintro rfl
    rw [addAll_nil]
  | named name form ih =>
    cases found : assembly.add form with
    | mk answer before =>
      cases answer with
      | none => simp [add_named_of_none found] at added
      | some other =>
        rw [add_named_of_some found] at added
        cases added
        obtain ⟨children, node, isNode, isThere, alone⟩ := ih found
        exact ⟨children, { node with name := some name }, isNode, by simp [isThere], alone⟩
  | reuse name =>
    rw [add_reuse_of_none (unnamed name)] at added
    cases added

theorem childless_root_of_parse? {text : String} {graph : SceneGraph} {stats : Stats}
    {root : NodeId} {top : Node} {inline : Inline} (read : parse? text = some (graph, stats))
    (isRoot : graph.root = some root) (found : graph.get? root = some top)
    (isInline : top.kind = .inline inline) : top.children = [] := by
  obtain ⟨form, other, readForm, added, rfl, -⟩ := parse?_eq_some read
  obtain rfl : other = root := Option.some.inj isRoot
  obtain ⟨children, node, isNode, isThere, alone⟩ :=
    Assembly.node_of_add (by simp) (Prod.ext added rfl)
  obtain rfl : node = top := Option.some.inj (isThere.symm.trans found)
  rw [isInline] at isNode
  cases written : tokens text with
  | nil => simp [written, readRoot?] at readForm
  | cons first behind =>
    rw [written] at readForm
    exact alone (childless_of_readForm readForm isNode)

end VrmlWorld.Document
