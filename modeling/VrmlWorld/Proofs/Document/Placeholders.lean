/-
  VrmlWorld/Proofs/Document/Placeholders.lean
  ===========================================
  **What is inside of a node of no known type is of no account.**

  Such a node is kept as a placeholder, and the block behind its type is passed over by
  the depth of its braces alone (`skipBlocks_append`). So a block whose braces balance
  ends with the brace behind them, whatever else is in it, and a block that is never
  closed ends with the file. The placeholder is one new node, and no name comes to stand
  for another one (`read_unknown`). Wherever a document comes to the node in the turns of
  its reading (`Reading.Comes`), its block may be exchanged (`Reading.Comes.passes`).
-/
import VrmlWorld.Proofs.Document.Roots

namespace VrmlWorld.Document

/-! ### The depth of braces -/

def Token.rise : Token → Int
  | .openBrace => 1
  | .closeBrace => -1
  | _ => 0

/-- How many more blocks are opened than closed. -/
def net : List Token → Int
  | [] => 0
  | first :: tokens => first.rise + net tokens

@[simp] theorem net_nil : net [] = 0 := rfl

@[simp] theorem net_cons (first : Token) (tokens : List Token) :
    net (first :: tokens) = first.rise + net tokens := rfl

/-- No beginning of the tokens closes more blocks than it opens, except for `depth`
    blocks that are open before. -/
def StaysWithin (depth : Nat) (tokens : List Token) : Prop :=
  ∀ before, before <+: tokens → 0 ≤ depth + net before

/-- As many blocks are closed as opened, and none before it is opened. -/
structure Balanced (tokens : List Token) : Prop where
  within : StaysWithin 0 tokens
  settled : net tokens = 0

theorem StaysWithin.cons {depth depth' : Nat} {first : Token} {tokens : List Token}
    (within : StaysWithin depth (first :: tokens)) (rises : depth + first.rise = depth') :
    StaysWithin depth' tokens := by
  intro before isPrefix
  have whole := within (first :: before) (List.cons_prefix_cons.2 ⟨rfl, isPrefix⟩)
  rw [net_cons] at whole
  omega

/-- Tokens that stay within the blocks that are left out leave out that many more, or
    fewer, of what is behind them. -/
theorem skipBlocks_append {depth depth' : Nat} {tokens : List Token}
    (within : StaysWithin depth tokens) (reaches : depth + net tokens = depth')
    (behind : List Token) :
    skipBlocks (depth + 1) (tokens ++ behind) = skipBlocks (depth' + 1) behind := by
  induction tokens generalizing depth with
  | nil =>
    obtain rfl : depth = depth' := by
      rw [net_nil] at reaches
      omega
    rfl
  | cons first tokens ih =>
    rw [net_cons] at reaches
    rw [List.cons_append]
    cases first with
    | openBrace =>
      simp only [Token.rise] at reaches
      rw [skipBlocks]
      exact ih (within.cons rfl) (by push_cast; omega)
    | closeBrace =>
      -- The brace closes one of the blocks that are open before.
      have opened : 0 < depth := by
        have := within [.closeBrace] (by simp)
        simp only [net_cons, Token.rise, net_nil] at this
        omega
      obtain ⟨depth, rfl⟩ := Nat.exists_eq_succ_of_ne_zero opened.ne'
      simp only [Token.rise] at reaches
      rw [skipBlocks]
      exact ih (within.cons (by simp only [Token.rise]; omega)) (by omega)
    | _ =>
      simp only [Token.rise] at reaches
      rw [skipBlocks]
      · exact ih (within.cons (by simp [Token.rise])) (by omega)
      all_goals simp

theorem Balanced.skipBlock {inside : List Token} (balanced : Balanced inside) (rest : List Token) :
    skipBlock (.openBrace :: (inside ++ .closeBrace :: rest)) = rest := by
  have stop : skipBlocks 1 (inside ++ .closeBrace :: rest) = skipBlocks 1 (.closeBrace :: rest) :=
    skipBlocks_append balanced.within (by simp [balanced.settled]) _
  simp [Document.skipBlock, stop, skipBlocks]

/-- A block that is never closed takes all that is left. -/
theorem StaysWithin.skipBlock {inside : List Token} (within : StaysWithin 0 inside) :
    skipBlock (.openBrace :: inside) = [] := by
  obtain ⟨depth, reaches⟩ := Int.eq_ofNat_of_zero_le (within inside (List.prefix_refl _))
  have stop := skipBlocks_append within reaches []
  rw [List.append_nil] at stop
  simpa [Document.skipBlock, skipBlocks] using stop

/-! ### One node after the other -/

/-- Reads the next node and stores it: the node that it stands for, what is stored then,
    and the tokens that are left. -/
def Assembly.read (assembly : Assembly) (first : Token) (tokens : List Token) :
    Option NodeId × Assembly × List Token :=
  match formAt first tokens with
  | (some form, left) => ((assembly.add form).1, (assembly.add form).2, left)
  | (none, left) => (none, assembly, left)

/-- A document is one node, read and stored. -/
theorem assemble?_cons (first : Token) (behind : List Token) :
    assemble? (first :: behind) =
      match Assembly.read {} first behind with
      | (some root, assembly, _) =>
          some ({ assembly.graph with root := some root }, assembly.stats)
      | (none, _) => none := by
  rw [assemble?, readRoot?_cons, Assembly.read]
  rcases formAt first behind with ⟨_ | form, left⟩
  · rfl
  · simp only [Option.bind_eq_bind, Option.bind_some]
    generalize Assembly.add {} form = added
    obtain ⟨_ | root, assembly⟩ := added <;> rfl

section Bodies

variable {σ : Type} {fields : List (Field σ)} {values : σ}

/-- What a body has found before stands in front of what it finds. -/
theorem bodyAt_found (found : List Form) (tokens : List Token) :
    bodyAt fields values found tokens =
      (((bodyAt fields values [] tokens).1.1,
        found.reverse ++ (bodyAt fields values [] tokens).1.2),
        (bodyAt fields values [] tokens).2) := by
  induction length : tokens.length using Nat.strong_induction_on generalizing tokens values found with
  | _ length ih =>
  subst length
  cases tokens with
  | nil => simp [bodyAt_end]
  | cons first behind =>
  by_cases close : first = .closeBrace
  · subst close
    simp [bodyAt_close]
  · cases named : fieldOf? fields first with
    | some field =>
      have shorter := Nat.lt_succ_of_le (field.read_suffix values behind).length_le
      rw [bodyAt_field named, bodyAt_field named, ih _ shorter found _ rfl]
    | none =>
      have shorter := Nat.lt_succ_of_le (formAt_suffix first behind).length_le
      rw [bodyAt_form close named, bodyAt_form close named, ih _ shorter _ _ rfl,
        ih _ shorter ((formAt first behind).1.toList ++ []) _ rfl]
      simp [List.append_assoc]

/-- The children of a body are read and stored one after the other. -/
theorem Assembly.addAll_body (assembly : Assembly) {first : Token} {behind : List Token}
    (inside : first ≠ .closeBrace) (unnamed : fieldOf? fields first = none) :
    assembly.addAll (bodyAt fields values [] (first :: behind)).1.2 =
      match assembly.read first behind with
      | (id, next, left) =>
        (id.toList ++ (next.addAll (bodyAt fields values [] left).1.2).1,
          (next.addAll (bodyAt fields values [] left).1.2).2) := by
  rw [bodyAt_form inside unnamed, bodyAt_found, read]
  rcases formAt first behind with ⟨_ | form, left⟩
  · rfl
  · exact addAll_cons assembly form _

end Bodies

/-! ### One placeholder -/

/-- All that a placeholder changes. -/
structure Assembly.TakesPlaceholder (assembly : Assembly) (typeName : String) (id : NodeId)
    (next : Assembly) : Prop where
  fresh : ¬assembly.graph.Stored id
  graph : next.graph = assembly.graph.insert { kind := .unknown typeName }
  stored : ∀ other, next.graph.get? other =
    if other = id then some { kind := .unknown typeName } else assembly.graph.get? other
  names : next.names = assembly.names
  stats : next.stats = { assembly.stats with
    nodes := assembly.stats.nodes + 1
    unknownNodes := assembly.stats.unknownNodes + 1 }

theorem Assembly.takesPlaceholder_store (assembly : Assembly) (typeName : String) :
    assembly.TakesPlaceholder typeName assembly.graph.nextId
      (assembly.store (.unknown typeName) []) where
  fresh stored := Nat.lt_irrefl _ stored.lt_size
  graph := rfl
  stored other := by rw [graph_store, SceneGraph.get?_insert]
  names := rfl
  stats := rfl

theorem Assembly.read_unknown {typeName : String} (unknown : NodeType.named? typeName = none)
    (assembly : Assembly) (tokens : List Token) :
    assembly.read (.word typeName) tokens =
      (some assembly.graph.nextId, assembly.store (.unknown typeName) [], skipBlock tokens) := by
  rw [read, formAt_unknown unknown]
  simp only [add_node, addAll_nil]

/-! ### Placeholders in documents -/

/-- A turn needs this reading, among others. -/
inductive Turn.Needs {ρ : Type} : Turn ρ → Reading → Prop where
  | here {next : Reading} {goOn : next.Answer → Turn ρ} : Needs (.needs next goOn) next
  | later {next reading : Reading} {goOn : next.Answer → Turn ρ}
      (rest : (goOn next.answer).Needs reading) : Needs (.needs next goOn) reading

/-- In the turns of the one reading it comes to the other one. -/
def Reading.Comes : Reading → Reading → Prop :=
  Relation.ReflTransGen fun reading next => (turn reading).Needs next

theorem Turn.Needs.last {ρ : Type} {next reading : Reading} {hand : next.Answer → ρ}
    (needs : (Turn.needs next fun answer => .done (hand answer)).Needs reading) :
    (Turn.needs next fun answer => .done (hand answer)).Last reading := by
  cases needs with
  | here => exact .here rfl
  | later rest => cases rest

/-- Only a child in a body is followed by more of the same block. -/
theorem Turn.Needs.last_or_child {reading next : Reading} (needs : (turn reading).Needs next) :
    (turn reading).Last next ∨
      ∃ (σ : Type) (fields : List (Field σ)) (values : σ) (found : List Form) (first : Token)
        (behind : List Token), first ≠ .closeBrace ∧ fieldOf? fields first = none ∧
        reading = .body fields values found (first :: behind) ∧ next = .node first behind := by
  cases reading with
  | node first tokens =>
    left
    revert needs
    rw [turn]
    fun_cases nodeTurn first tokens with
    | case1 | case5 | case7 | case8 => exact Turn.Needs.last
    | _ => rintro ⟨⟩
  | body fields values found tokens =>
    revert needs
    rw [turn]
    fun_cases bodyTurn fields values found tokens with
    | case1 | case2 => rintro ⟨⟩
    | case3 => exact fun needs => .inl needs.last
    | case4 first behind inside unnamed =>
      intro needs
      cases needs with
      | here => exact .inr ⟨_, fields, values, found, first, behind, inside, unnamed, rfl, rfl⟩
      | later rest => exact .inl (.later rest.last)
  | plainBody fields values tokens =>
    left
    revert needs
    rw [turn]
    fun_cases plainBodyTurn fields values tokens with
    | case1 | case2 => rintro ⟨⟩
    | case3 | case4 | case5 => exact Turn.Needs.last
  | members single found tokens =>
    left
    revert needs
    rw [turn]
    fun_cases membersTurn single found tokens with
    | case1 | case2 => rintro ⟨⟩
    | case3 | case4 => exact Turn.Needs.last
  | flags meaning union found tokens =>
    left
    revert needs
    rw [turn]
    fun_cases flagsTurn meaning union found tokens with
    | case2 | case3 => rintro ⟨⟩
    | case1 => exact Turn.Needs.last
  | blocks depth tokens =>
    left
    revert needs
    rw [turn]
    fun_cases blocksTurn depth tokens with
    | case1 | case2 => rintro ⟨⟩
    | case3 | case4 | case5 => exact Turn.Needs.last
  | pixels count tokens =>
    left
    revert needs
    rw [turn]
    fun_cases pixelsTurn count tokens with
    | case3 => rintro ⟨⟩
    | case1 | case2 => exact Turn.Needs.last

theorem Reading.Comes.passes {reading next : Reading} {fork : Fork} (comes : reading.Comes next)
    (passes : next.Passes fork Eq) : reading.Passes fork Eq := by
  induction comes using Relation.ReflTransGen.head_induction_on with
  | refl => exact passes
  | head needs _ ih =>
    obtain last | ⟨σ, fields, values, found, first, behind, inside, unnamed, rfl, rfl⟩ :=
      needs.last_or_child
    · exact passes_of_last last ih
    · -- Behind the child, both ways have come together.
      obtain ⟨untouched, same⟩ := ih
      refine ⟨untouched, fun _ tokens' ahead => ?_⟩
      obtain ⟨behind', rfl⟩ := ahead.cons_iff.1 ⟨behind, rfl⟩
      obtain ⟨form, left⟩ := same behind' ahead
      rw [bodyAt_form inside unnamed, bodyAt_form inside unnamed, form, left]
      exact ⟨rfl, rfl⟩

/-- Two blocks of a node of no known type that leave the same are read alike wherever
    the node stands. -/
theorem Reading.Comes.assemble?_eq {typeName : String} {first : Token}
    {behind before block block' : List Token} (unknown : NodeType.named? typeName = none)
    (comes : (Reading.node first behind).Comes (.node (.word typeName) block))
    (whole : first :: behind = before ++ .word typeName :: block)
    (same : skipBlock block' = skipBlock block) :
    assemble? (before ++ .word typeName :: block') = assemble? (first :: behind) := by
  let fork : Fork := ⟨.word typeName :: block, .word typeName :: block', rfl⟩
  have atNode : (Reading.node (.word typeName) block).Passes fork Eq := by
    refine ⟨Nat.le_refl _, fun tokens' ahead => ?_⟩
    obtain rfl : tokens' = block' := List.tail_eq_of_cons_eq ahead.eq_other
    rw [formAt_unknown unknown, formAt_unknown unknown, same]
    exact ⟨rfl, rfl⟩
  obtain ⟨-, reads⟩ := comes.passes atNode
  have ahead : fork.Ahead (first :: behind) (before ++ .word typeName :: block') :=
    ⟨before, whole, rfl⟩
  obtain ⟨behind', whole'⟩ := ahead.cons_iff.1 ⟨behind, rfl⟩
  rw [whole'] at ahead ⊢
  rw [assemble?, assemble?, readRoot?_cons, readRoot?_cons, (reads behind' ahead).1]

/-- A node of no known type is read as one placeholder in any state, whatever is in its
    block: what is stored gains one new node, no name comes to stand for another node,
    and exactly what is behind the block is left; nothing, if the block is never closed.
    So wherever a document comes to the node, the block may be exchanged for any other. -/
theorem unknown_nodes_are_placeholders {typeName : String}
    (unknown : NodeType.named? typeName = none) :
    (∀ (assembly : Assembly) (inside rest : List Token), Balanced inside → ∃ id next,
      assembly.read (.word typeName) (.openBrace :: (inside ++ .closeBrace :: rest)) =
        (some id, next, rest) ∧
      assembly.TakesPlaceholder typeName id next) ∧
    (∀ (assembly : Assembly) (inside : List Token), StaysWithin 0 inside → ∃ id next,
      assembly.read (.word typeName) (.openBrace :: inside) = (some id, next, []) ∧
      assembly.TakesPlaceholder typeName id next) ∧
    (∀ (assembly : Assembly) (inside inside' rest : List Token),
      Balanced inside → Balanced inside' →
      assembly.read (.word typeName) (.openBrace :: (inside' ++ .closeBrace :: rest)) =
        assembly.read (.word typeName) (.openBrace :: (inside ++ .closeBrace :: rest))) ∧
    ∀ text text' first behind before inside inside' rest, Balanced inside → Balanced inside' →
      tokens text = first :: behind →
      tokens text = before ++ .word typeName :: .openBrace :: (inside ++ .closeBrace :: rest) →
      tokens text' = before ++ .word typeName :: .openBrace :: (inside' ++ .closeBrace :: rest) →
      (Reading.node first behind).Comes
        (.node (.word typeName) (.openBrace :: (inside ++ .closeBrace :: rest))) →
      parse? text' = parse? text := by
  refine ⟨?_, ?_, ?_, ?_⟩
  · intro assembly inside rest balanced
    rw [Assembly.read_unknown unknown, balanced.skipBlock]
    exact ⟨_, _, rfl, assembly.takesPlaceholder_store typeName⟩
  · intro assembly inside within
    rw [Assembly.read_unknown unknown, within.skipBlock]
    exact ⟨_, _, rfl, assembly.takesPlaceholder_store typeName⟩
  · intro assembly inside inside' rest balanced balanced'
    rw [Assembly.read_unknown unknown, Assembly.read_unknown unknown, balanced.skipBlock,
      balanced'.skipBlock]
  · intro text text' first behind before inside inside' rest balanced balanced' begins whole whole'
      comes
    rw [parse?, parse?, whole', begins]
    refine comes.assemble?_eq unknown (begins.symm.trans whole) ?_
    rw [balanced.skipBlock, balanced'.skipBlock]

/-- Whether a `Fog` has a block of its own inside or not makes no difference. -/
theorem placeholder_fog :
    (∃ id next, ({} : Assembly).read (.word "Fog")
        [.openBrace, .openBrace, .closeBrace, .closeBrace, .word "Cube"] =
        (some id, next, [.word "Cube"]) ∧ Assembly.TakesPlaceholder {} "Fog" id next) ∧
    (∃ id next, ({} : Assembly).read (.word "Fog") [.openBrace, .openBrace, .closeBrace] =
        (some id, next, []) ∧ Assembly.TakesPlaceholder {} "Fog" id next) ∧
    parse? "Group{Fog{}}" = parse? "Group{Fog{{}}}" := by
  have unknown : NodeType.named? "Fog" = none := rfl
  obtain ⟨closed, unclosed, -, exchanged⟩ := unknown_nodes_are_placeholders unknown
  have empty : Balanced [] := ⟨fun before isPrefix => by simp [List.prefix_nil.1 isPrefix], rfl⟩
  have block : Balanced [.openBrace, .closeBrace] := by
    refine ⟨fun before isPrefix => ?_, rfl⟩
    rw [← List.mem_inits] at isPrefix
    simp only [List.inits, List.map_cons, List.map_nil, List.mem_cons, List.not_mem_nil,
      or_false] at isPrefix
    rcases isPrefix with rfl | rfl | rfl <;> decide
  have without : tokens "Group{Fog{}}" = .word "Group" :: .openBrace :: .word "Fog" ::
      .openBrace :: ([] ++ [.closeBrace, .closeBrace]) := by
    decide +kernel
  have within : tokens "Group{Fog{{}}}" = .word "Group" :: .openBrace :: .word "Fog" ::
      .openBrace :: ([.openBrace, .closeBrace] ++ [.closeBrace, .closeBrace]) := by
    decide +kernel
  refine ⟨closed {} _ [.word "Cube"] block, unclosed {} _ block.within, ?_⟩
  exact exchanged _ _ _ _ [.word "Group", .openBrace] _ _ _ block empty within within without
    (.head .here (.single .here))

end VrmlWorld.Document
