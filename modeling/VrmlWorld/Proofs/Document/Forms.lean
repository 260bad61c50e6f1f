/-
  VrmlWorld/Proofs/Document/Forms.lean
  ====================================
  **Written forms are read back.**

  A form is told from the fields around it by its first token: no field is
  named like a node type. The induction follows how a form is written, with one
  case for a node, a name, a reuse and for the children of a body.
-/
import VrmlWorld.Proofs.Document.Wordings

namespace VrmlWorld.Document

/-! ### First tokens -/

/-- Whether a written form may begin with the token. -/
inductive Heads : Token → Prop where
  | type {typeName : String} {type : NodeType} (known : NodeType.named? typeName = some type) :
      Heads (.word typeName)
  | define : Heads .define
  | reuse : Heads .reuse

theorem Heads.startsNode {first : Token} (heads : Heads first) : startsNode first = true := by
  cases heads <;> rfl

theorem Heads.quiet {first : Token} (heads : Heads first) (rest : List Token) :
    Quiet (first :: rest) := by
  rintro word ⟨⟩ part
  cases heads with
  | type known =>
    simp only [List.mem_cons, List.not_mem_nil, or_false] at part
    rcases part with rfl | rfl | rfl | rfl
    · cases known
    · cases known
    · cases known
    · cases known

theorem NodeType.named?_of_mem_fields :
    ∀ row ∈ NodeType.table, ∀ field ∈ row.2.fields, NodeType.named? field.name = none := by
  simp only [NodeType.table, List.forall_mem_cons]
  and_intros
  all_goals
    repeat' first
      | exact List.forall_mem_nil _
      | refine List.forall_mem_cons.2 ⟨rfl, ?_⟩

/-- No field of a node type is named like the beginning of a form. -/
theorem Heads.fieldOf? {first : Token} (heads : Heads first) {name : String} {type : NodeType}
    (named : NodeType.named? name = some type) : fieldOf? type.fields first = none := by
  cases heads with
  | @type typeName _ known =>
    obtain ⟨before, behind, rows, -⟩ := List.lookup_eq_some_iff.1 named
    have row : (name, type) ∈ NodeType.table := by simp [rows]
    refine List.find?_eq_none.2 ?_
    intro field member same
    have none := NodeType.named?_of_mem_fields (name, type) row field member
    rw [beq_iff_eq.1 same, known] at none
    cases none
  | define => rfl
  | reuse => rfl

/-! ### Forms -/

/-- How a form is read back from its tokens. -/
def FormBack (form : Form) (tokens : List Token) : Prop :=
  ∃ first behind, tokens = first :: behind ∧ Heads first ∧
    ∀ rest, formAt first (behind ++ rest) = (some form, rest)

/-- How forms are read back as the children of a node. -/
def FormsBack (forms : List Form) (tokens : List Token) : Prop :=
  ∀ rest, Quiet (tokens ++ .closeBrace :: rest) ∧
    ∀ {name : String} {type : NodeType} (values : type.Values) (found : List Form),
      NodeType.named? name = some type →
      bodyAt type.fields values found (tokens ++ .closeBrace :: rest) =
        ((values, found.reverse ++ forms), rest)

theorem FormBack.cons {form : Form} {forms : List Form} {own more : List Token}
    (first : FormBack form own) (others : FormsBack forms more) :
    FormsBack (form :: forms) (own ++ more) := by
  obtain ⟨head, behind, rfl, heads, read⟩ := first
  intro rest
  refine ⟨heads.quiet _, ?_⟩
  intro name type values found named
  rw [List.append_assoc, List.cons_append,
    bodyAt_child heads.startsNode (heads.fieldOf? named), read]
  simp only [Option.toList_some, List.singleton_append]
  rw [(others rest).2 values (form :: found) named]
  simp

theorem node_back {kind : NodeKind} {typeName : String} {entries order : List Entry}
    {children : List Form} {parts : List (List Token)} {body : List Token}
    (wording : Wording kind typeName entries) (anyOrder : order.Perm entries)
    (inside : List.Forall₂ Entry.Written order parts) (below : FormsBack children body)
    (leaf : isInner kind = false → children = [] ∧ body = []) :
    FormBack (.node kind children)
      (.word typeName :: .openBrace :: (parts.flatten ++ (body ++ [.closeBrace]))) := by
  obtain ⟨type, named, parent, updates, reads, same⟩ := wording.reads
  obtain ⟨reordered, reads, settles⟩ := settled_of_perm (NodeType.apart_of_named? named) reads
    wording.names_nodup anyOrder type.initial
  refine ⟨_, _, rfl, .type named, ?_⟩
  intro rest
  simp only [List.cons_append, List.append_assoc, List.nil_append]
  cases inner : isInner kind with
  | true =>
    obtain ⟨quiet, children⟩ := below rest
    rw [formAt_parent named (parent.trans inner), bodyAt_written reads inside type.initial [] quiet,
      children _ [] named, settles, same]
    rfl
  | false =>
    obtain ⟨rfl, rfl⟩ := leaf inner
    rw [formAt_single named (parent.trans inner), List.nil_append,
      readFields_written reads inside type.initial rest, settles, same]

mutual

theorem Form.Written.back {form : Form} {tokens : List Token} :
    form.Written tokens → FormBack form tokens
  | .node wording anyOrder inside below inner => by
    refine node_back wording anyOrder inside below.back ?_
    intro leaf
    cases below with
    | nil => exact ⟨rfl, rfl⟩
    | cons first rest =>
      rw [inner (List.cons_ne_nil _ _)] at leaf
      cases leaf
  | .named own => by
    obtain ⟨first, behind, rfl, heads, read⟩ := own.back
    refine ⟨_, _, rfl, .define, fun rest => ?_⟩
    rw [List.cons_append, List.cons_append, formAt_define heads.startsNode, read]
    rfl
  | .reuse => ⟨_, _, rfl, .reuse, fun rest => formAt_reuse⟩

theorem Form.WrittenAll.back {forms : List Form} {tokens : List Token} :
    Form.WrittenAll forms tokens → FormsBack forms tokens
  | .nil => by
    intro rest
    refine ⟨quiet_close rest, ?_⟩
    intro name type values found named
    rw [List.nil_append, bodyAt_close, List.append_nil]
  | .cons first rest => FormBack.cons first.back rest.back

end

theorem readRoot?_written {form : Form} {tokens : List Token} (written : form.Written tokens) :
    readRoot? tokens = some form := by
  obtain ⟨first, behind, rfl, -, read⟩ := written.back
  have whole := read []
  rw [List.append_nil] at whole
  rw [readRoot?_cons, whole]

end VrmlWorld.Document
