/-
  VrmlWorld/Proofs/Document/Marks.lean
  ====================================
  **The tokens that the parts of a form are told by.**

  A form does not keep the tokens it was read from, but each part of it has a mark
  among them: the word of a node's type, or `DEF` or `USE` with the name behind it.
  The marks of all parts stand in the file one behind the other, in the order of the
  form (`marked_of_readRoot?`). So no token is taken for two parts, and a form has no
  more parts than the file has tokens.
-/
import VrmlWorld.Proofs.Document.EndOfFile
import VrmlWorld.Proofs.Document.Inverse

namespace VrmlWorld.Document

/-! ### Marks -/

mutual

/-- The marks of a form, in reading order. -/
inductive Form.Marked : Form → List (List Token) → Prop where
  | node {kind : NodeKind} (typeName : String) {children : List Form}
      {marks : List (List Token)} (below : Form.MarkedAll children marks) :
      Form.Marked (.node kind children) ([.word typeName] :: marks)
  | named {name : String} {form : Form} {marks : List (List Token)} (own : form.Marked marks) :
      Form.Marked (.named name form) ([.define, .word name] :: marks)
  | reuse {name : String} : Form.Marked (.reuse name) [[.reuse, .word name]]

inductive Form.MarkedAll : List Form → List (List Token) → Prop where
  | nil : MarkedAll [] []
  | cons {form : Form} {forms : List Form} {marks more : List (List Token)}
      (first : form.Marked marks) (rest : MarkedAll forms more) :
      MarkedAll (form :: forms) (marks ++ more)

end

/-- Marks stand among tokens, one behind the other and each of them whole. -/
inductive Along : List (List Token) → List Token → Prop where
  | nil {tokens : List Token} : Along [] tokens
  | skip {marks : List (List Token)} {token : Token} {tokens : List Token}
      (behind : Along marks tokens) : Along marks (token :: tokens)
  | mark {marks : List (List Token)} (first : Token) (others : List Token)
      {tokens : List Token} (behind : Along marks tokens) :
      Along ((first :: others) :: marks) (first :: others ++ tokens)

theorem Along.of_suffix {marks : List (List Token)} {left tokens : List Token}
    (along : Along marks left) (suffix : left <:+ tokens) : Along marks tokens := by
  obtain ⟨before, rfl⟩ := suffix
  induction before with
  | nil => exact along
  | cons token before ih => exact .skip ih

theorem Along.length_le {marks : List (List Token)} {tokens : List Token}
    (along : Along marks tokens) : marks.length ≤ tokens.length := by
  induction along with
  | nil => exact Nat.zero_le _
  | skip behind ih => exact ih.trans (Nat.le_succ _)
  | mark first others behind ih =>
    simp only [List.length_cons, List.length_append]
    omega

/-! ### Marks of what is read -/

/-- Behind the marks of a form, others may follow in what it leaves. -/
theorem marked_of_formAt_and_bodyAt :
    (∀ (first : Token) (tokens : List Token), ∀ form, (formAt first tokens).1 = some form →
      ∃ marks, form.Marked marks ∧ ∀ more, Along more (formAt first tokens).2 →
        Along (marks ++ more) (first :: tokens)) ∧
    (∀ (σ : Type) (fields : List (Field σ)) (values : σ) (found : List Form)
      (tokens : List Token), ∃ forms marks,
        (bodyAt fields values found tokens).1.2 = found.reverse ++ forms ∧
        Form.MarkedAll forms marks ∧ ∀ more, Along more (bodyAt fields values found tokens).2 →
          Along (marks ++ more) tokens) := by
  apply readForm.mutual_induct
  case case1 =>
    intro name next behind starts _ _ _ ih form read
    rw [formAt_define starts] at read ⊢
    obtain ⟨own, isOwn, rfl⟩ := Option.map_eq_some_iff.1 read
    obtain ⟨marks, marked, along⟩ := ih own isOwn
    exact ⟨_, .named marked, fun more behind => .mark .define [.word name] (along more behind)⟩
  case case2 =>
    intro name next behind stops form read
    rw [formAt_define_stop stops] at read
    cases read
  case case3 =>
    intro text form read
    rw [formAt_define_end] at read
    cases read
  case case4 =>
    intro tokens noNode noName form read
    have absent : ∀ name behind, tokens ≠ .word name :: behind := by
      rintro name (_ | ⟨next, behind⟩) rfl
      · exact noName name rfl
      · exact noNode name next behind rfl
    rw [formAt_define_unnamed absent] at read
    cases read
  case case5 =>
    intro name behind form read
    rw [formAt_reuse] at read ⊢
    cases read
    exact ⟨_, .reuse, fun more behind => .mark .reuse [.word name] behind⟩
  case case6 =>
    intro tokens noName form read
    rw [formAt_reuse_unnamed noName] at read
    cases read
  case case7 =>
    intro tokens typeName unknown form read
    rw [formAt_unknown unknown] at read ⊢
    cases read
    exact ⟨_, .node typeName .nil, fun more behind =>
      .mark (.word typeName) [] (behind.of_suffix (skipBlock_suffix tokens))⟩
  case case8 =>
    intro typeName type known tokens parent _ _ _ _ ih form read
    rw [formAt_parent known parent] at read ⊢
    cases read
    obtain ⟨forms, marks, all, marked, along⟩ := ih
    simp only [List.reverse_nil, List.nil_append] at all
    exact ⟨_, .node typeName (all ▸ marked), fun more behind =>
      .mark (.word typeName) [] (.skip (along more behind))⟩
  case case9 =>
    intro typeName type known tokens single form read
    have single : type.parent = false := by simpa using single
    rw [formAt_single known single] at read ⊢
    cases read
    exact ⟨_, .node typeName .nil, fun more behind =>
      .mark (.word typeName) [] (.skip (behind.of_suffix (readFields_suffix _ _ tokens)))⟩
  case case10 =>
    intro typeName type known tokens noBody form read
    rw [formAt_bare known noBody] at read ⊢
    cases read
    exact ⟨_, .node typeName .nil, fun more behind => .mark (.word typeName) [] behind⟩
  case case11 =>
    intro first tokens noDefine noReuse noWord form read
    have noNode : startsNode first = false := by
      cases first with
      | define => exact absurd rfl noDefine
      | reuse => exact absurd rfl noReuse
      | word text => exact absurd rfl (noWord text)
      | _ => rfl
    rw [formAt_none noNode] at read
    cases read
  case case12 =>
    intro σ fields values found
    rw [bodyAt_end]
    exact ⟨[], [], by simp, .nil, fun more behind => behind⟩
  case case13 =>
    intro σ fields values found tokens
    rw [bodyAt_close]
    exact ⟨[], [], by simp, .nil, fun more behind => .skip behind⟩
  case case14 =>
    -- The values of a field have no marks, so its name and they are passed over.
    intro σ fields values found head tokens inside field named _ _ _ ih
    rw [bodyAt_field named]
    obtain ⟨forms, marks, all, marked, along⟩ := ih
    exact ⟨forms, marks, all, marked, fun more behind =>
      .skip ((along more behind).of_suffix (field.read_suffix values tokens))⟩
  case case15 =>
    intro σ fields values found head tokens inside unnamed form rest read _ _ _ ih ihRest
    have answer : formAt head tokens = (form, rest.1) := by rw [formAt, read]
    rw [bodyAt_form inside unnamed]
    rw [answer] at ih ⊢
    obtain ⟨forms, marks, all, marked, along⟩ := ihRest
    cases form with
    | none =>
      exact ⟨forms, marks, all, marked, fun more behind =>
        .skip ((along more behind).of_suffix rest.2)⟩
    | some own =>
      obtain ⟨ownMarks, ownMarked, ownAlong⟩ := ih own rfl
      refine ⟨own :: forms, ownMarks ++ marks, all.trans (by simp), .cons ownMarked marked, ?_⟩
      intro more behind
      rw [List.append_assoc]
      exact ownAlong _ (along more behind)

/-- The marks of the form of a file stand among its tokens. -/
theorem marked_of_readRoot? {tokens : List Token} {form : Form}
    (read : readRoot? tokens = some form) : ∃ marks, form.Marked marks ∧ Along marks tokens := by
  cases tokens with
  | nil => cases read
  | cons first behind =>
    obtain ⟨marks, marked, along⟩ := marked_of_formAt_and_bodyAt.1 first behind form read
    exact ⟨marks, marked, List.append_nil marks ▸ along [] .nil⟩

end VrmlWorld.Document
