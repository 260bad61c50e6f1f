/-
  VrmlWorld/Proofs/Document/Inverse.lean
  ======================================
  **Reading inverts writing.**

  A written document is a form in which every `USE` stands behind a complete
  node of its name. What is read from it is the same tree again: `Form.Holds`
  says of an identity that the scene holds a form there, node after node, with
  its kind, its name and its children in order, and that a `USE` is the identity
  of the latest complete node of its name. Identities are given in the order in
  which nodes are complete, so no two nodes of the form share one.
-/
import VrmlWorld.Proofs.Document.Forms
import VrmlWorld.Proofs.Document.Spelling
import VrmlWorld.Proofs.Document.Storing

namespace VrmlWorld.Document

/-! ### Names in scope -/

mutual

/-- The names of complete nodes before a form and behind it, the latest first;
    the form uses none that does not stand before its use. -/
inductive Form.Scoped : List String → Form → List String → Prop where
  | node {kind : NodeKind} {children : List Form} {known behind : List String}
      (below : Form.ScopedAll known children behind) :
      Form.Scoped known (.node kind children) behind
  | named {name : String} {kind : NodeKind} {children : List Form} {known behind : List String}
      (below : Form.ScopedAll known children behind) :
      Form.Scoped known (.named name (.node kind children)) (name :: behind)
  | reuse {name : String} {known : List String} (complete : name ∈ known) :
      Form.Scoped known (.reuse name) known

/-- The same for forms one after the other. -/
inductive Form.ScopedAll : List String → List Form → List String → Prop where
  | nil {known : List String} : ScopedAll known [] known
  | cons {form : Form} {others : List Form} {known between behind : List String}
      (first : form.Scoped known between) (rest : ScopedAll between others behind) :
      ScopedAll known (form :: others) behind

end

mutual

def Form.count : Form → Nat
  | .node _ children => Form.countAll children + 1
  | .named _ form => form.count
  | .reuse _ => 0

def Form.countAll : List Form → Nat
  | [] => 0
  | form :: others => form.count + Form.countAll others

end

/-! ### What a scene holds -/

/-- The nodes complete at one point of a document: how many there are, and
    which of them have names, the latest first. -/
structure Log where
  names : List (String × NodeId) := []
  count : Nat := 0

mutual

/-- What a scene holds at an identity is the form, written where the first log
    holds; behind it the second does. -/
inductive Form.Holds (graph : SceneGraph) : Log → Form → NodeId → Log → Prop where
  | node {kind : NodeKind} {children : List Form} {ids : List NodeId} {before : Log}
      {names : List (String × NodeId)} {count : Nat}
      (below : Form.HoldsAll graph before children ids ⟨names, count⟩)
      (stored : graph.get? ⟨count⟩ = some { kind, children := ids }) :
      Form.Holds graph before (.node kind children) ⟨count⟩ ⟨names, count + 1⟩
  | named {name : String} {kind : NodeKind} {children : List Form} {ids : List NodeId}
      {before : Log} {names : List (String × NodeId)} {count : Nat}
      (below : Form.HoldsAll graph before children ids ⟨names, count⟩)
      (stored : graph.get? ⟨count⟩ = some { name := some name, kind, children := ids }) :
      Form.Holds graph before (.named name (.node kind children)) ⟨count⟩
        ⟨(name, ⟨count⟩) :: names, count + 1⟩
  | reuse {name : String} {id : NodeId} {before : Log}
      (latest : before.names.lookup name = some id) :
      Form.Holds graph before (.reuse name) id before

/-- The same for forms and identities one after the other. -/
inductive Form.HoldsAll (graph : SceneGraph) : Log → List Form → List NodeId → Log → Prop where
  | nil {before : Log} : HoldsAll graph before [] [] before
  | cons {form : Form} {others : List Form} {id : NodeId} {ids : List NodeId}
      {before between behind : Log} (first : form.Holds graph before id between)
      (rest : HoldsAll graph between others ids behind) :
      HoldsAll graph before (form :: others) (id :: ids) behind

end

/-! ### Storing what is in scope -/

/-- The nodes of one scene are unchanged in another one. -/
def Preserves (graph later : SceneGraph) : Prop :=
  graph.nodes.size ≤ later.nodes.size ∧
    ∀ id : NodeId, id.index < graph.nodes.size → later.get? id = graph.get? id

theorem Preserves.refl (graph : SceneGraph) : Preserves graph graph :=
  ⟨le_rfl, fun _ _ => rfl⟩

theorem Preserves.trans {first second third : SceneGraph} (h : Preserves first second)
    (h' : Preserves second third) : Preserves first third :=
  ⟨h.1.trans h'.1, fun id older => (h'.2 id (older.trans_le h.1)).trans (h.2 id older)⟩

def KnownKind (kind : NodeKind) : Prop := ∀ typeName, kind ≠ .unknown typeName

namespace Assembly

/-- An assembly is where a log says it is. -/
structure Agrees (assembly : Assembly) (log : Log) : Prop where
  names : ∀ name : String, assembly.names[name]? = log.names.lookup name
  count : assembly.graph.nodes.size = log.count

theorem Agrees.last_lt_size {assembly : Assembly} {names : List (String × NodeId)} {count : Nat}
    (agrees : assembly.Agrees ⟨names, count + 1⟩) : count < assembly.graph.nodes.size := by
  rw [agrees.count]
  exact Nat.lt_succ_self count

/-- From one point of storing to a later one: the nodes that were stored are
    unchanged, and only nodes of known kinds have been counted. -/
structure Advances (before after : Assembly) (log log' : Log) (nodes : Nat) : Prop where
  agrees : after.Agrees log'
  preserves : Preserves before.graph after.graph
  counted : log'.count = log.count + nodes
  stats : after.stats = { before.stats with nodes := before.stats.nodes + nodes }

theorem Agrees.advances_refl {assembly : Assembly} {log : Log} (agrees : assembly.Agrees log) :
    assembly.Advances assembly log log 0 :=
  ⟨agrees, .refl _, rfl, rfl⟩

theorem Advances.trans {first second third : Assembly} {log log' log'' : Log} {n n' : Nat}
    (h : first.Advances second log log' n) (h' : second.Advances third log' log'' n') :
    first.Advances third log log'' (n + n') := by
  refine ⟨h'.agrees, h.preserves.trans h'.preserves, ?_, ?_⟩
  · rw [h'.counted, h.counted, Nat.add_assoc]
  · rw [h'.stats, h.stats, Nat.add_assoc]

theorem advances_store {assembly : Assembly} {names : List (String × NodeId)} {count : Nat}
    {kind : NodeKind} (agrees : assembly.Agrees ⟨names, count⟩) (known : KnownKind kind)
    (ids : List NodeId) :
    assembly.Advances (assembly.store kind ids) ⟨names, count⟩ ⟨names, count + 1⟩ 1 ∧
      (assembly.store kind ids).graph.get? ⟨count⟩ = some { kind, children := ids } := by
  have next : assembly.graph.nextId = ⟨count⟩ := congrArg NodeId.mk agrees.count
  refine ⟨⟨⟨agrees.names, ?_⟩, ⟨?_, ?_⟩, rfl, ?_⟩, ?_⟩
  · simpa using agrees.count
  · simp
  · intro id older
    have different : id ≠ assembly.graph.nextId := by
      rintro rfl
      exact absurd older (lt_irrefl _)
    simp [different]
  · cases kind with
    | unknown typeName => exact absurd rfl (known typeName)
    | _ => rfl
  · simp [next]

theorem advances_store_giveName {assembly : Assembly} {names : List (String × NodeId)}
    {count : Nat} {kind : NodeKind} (agrees : assembly.Agrees ⟨names, count⟩)
    (known : KnownKind kind) (ids : List NodeId) (name : String) :
    let after := (assembly.store kind ids).giveName name ⟨count⟩
    assembly.Advances after ⟨names, count⟩ ⟨(name, ⟨count⟩) :: names, count + 1⟩ 1 ∧
      after.graph.get? ⟨count⟩ = some { name := some name, kind, children := ids } := by
  intro after
  obtain ⟨stored, found⟩ := advances_store agrees known ids
  refine ⟨⟨⟨?_, ?_⟩, ⟨?_, ?_⟩, rfl, stored.stats⟩, ?_⟩
  · intro other
    rw [names_giveName, Std.HashMap.getElem?_insert, stored.agrees.names, List.lookup_cons]
    by_cases same : other = name
    · simp [same]
    · simp [beq_eq_false_iff_ne.2 same, Ne.symm same]
  · simpa [after] using agrees.count
  · simp [after]
  · intro id older
    have different : id ≠ ⟨count⟩ := by
      rintro rfl
      exact absurd (agrees.count ▸ older) (lt_irrefl _)
    have same := stored.preserves.2 id older
    simpa [after, different] using same
  · simp only [graph_store] at found
    simp [after, found]

end Assembly

open Assembly

mutual

/-- A form in scope is stored and held from then on. -/
theorem Form.Scoped.stored {form : Form} {known behind : List String} :
    form.Scoped known behind → form.Only KnownKind → ∀ (assembly : Assembly) (log : Log),
      assembly.Agrees log → log.names.map (·.1) = known →
      ∃ id log', (assembly.add form).1 = some id ∧
        assembly.Advances (assembly.add form).2 log log' form.count ∧
        log'.names.map (·.1) = behind ∧
        ∀ graph, Preserves (assembly.add form).2.graph graph → form.Holds graph log id log'
  | .node below, .node own only, assembly, log, agrees, names => by
    obtain ⟨log', children, names', holds⟩ := below.stored only assembly log agrees names
    obtain ⟨store, found⟩ := advances_store children.agrees own (assembly.addAll _).1
    have whole := children.trans store
    rw [add_node]
    refine ⟨⟨log'.count⟩, ⟨log'.names, log'.count + 1⟩, ?_, whole, names', ?_⟩
    · exact congrArg (some ∘ NodeId.mk) children.agrees.count
    · intro graph later
      have kept := later.2 ⟨log'.count⟩ store.agrees.last_lt_size
      exact .node (holds graph (store.preserves.trans later)) (kept.trans found)
  | @Form.Scoped.named name _ _ _ _ below, .named (.node own only), assembly, log, agrees,
    names => by
    obtain ⟨log', children, names', holds⟩ := below.stored only assembly log agrees names
    obtain ⟨store, found⟩ :=
      advances_store_giveName children.agrees own (assembly.addAll _).1 name
    have whole := children.trans store
    have next : (assembly.addAll _).2.graph.nextId = ⟨log'.count⟩ :=
      congrArg NodeId.mk children.agrees.count
    rw [add_named_of_some (add_node _ _ _), next]
    refine ⟨⟨log'.count⟩, ⟨(name, ⟨log'.count⟩) :: log'.names, log'.count + 1⟩, rfl, whole, ?_, ?_⟩
    · rw [List.map_cons, names']
    · intro graph later
      have kept := later.2 ⟨log'.count⟩ store.agrees.last_lt_size
      exact .named (holds graph (store.preserves.trans later)) (kept.trans found)
  | .reuse complete, _, assembly, log, agrees, names => by
    obtain ⟨row, member, rfl⟩ := List.mem_map.1 (names ▸ complete)
    cases latest : log.names.lookup row.1 with
    | none =>
      have absent := List.lookup_eq_none_iff.1 latest row member
      simp at absent
    | some id =>
      rw [add_reuse_of_some ((agrees.names row.1).trans latest)]
      exact ⟨id, log, rfl, agrees.advances_refl, names, fun graph _ => .reuse latest⟩

/-- So are forms one after the other. -/
theorem Form.ScopedAll.stored {forms : List Form} {known behind : List String} :
    Form.ScopedAll known forms behind → (∀ form ∈ forms, form.Only KnownKind) →
      ∀ (assembly : Assembly) (log : Log),
      assembly.Agrees log → log.names.map (·.1) = known →
      ∃ log', assembly.Advances (assembly.addAll forms).2 log log' (Form.countAll forms) ∧
        log'.names.map (·.1) = behind ∧
        ∀ graph, Preserves (assembly.addAll forms).2.graph graph →
          Form.HoldsAll graph log forms (assembly.addAll forms).1 log'
  | .nil, _, assembly, log, agrees, names => by
    rw [addAll_nil]
    exact ⟨log, agrees.advances_refl, names, fun graph _ => .nil⟩
  | .cons first rest, only, assembly, log, agrees, names => by
    obtain ⟨id, log', found, own, names', holds⟩ :=
      first.stored (only _ List.mem_cons_self) assembly log agrees names
    obtain ⟨log'', others, names'', holdsAll⟩ :=
      rest.stored (fun form member => only form (List.mem_cons_of_mem _ member)) _ log' own.agrees
        names'
    rw [addAll_cons, found]
    refine ⟨log'', own.trans others, names'', ?_⟩
    intro graph later
    exact .cons (holds graph (others.preserves.trans later)) (holdsAll graph later)

end

/-! ### Written documents -/

theorem Wording.knownKind {kind : NodeKind} {typeName : String} {entries : List Entry}
    (wording : Wording kind typeName entries) : KnownKind kind := by
  rintro typeName rfl
  cases wording

mutual

theorem Form.Written.only {form : Form} {tokens : List Token} :
    form.Written tokens → form.Only KnownKind
  | .node wording _ _ below _ => .node wording.knownKind below.only
  | .named own => .named own.only
  | .reuse => .reuse

theorem Form.WrittenAll.only {forms : List Form} {tokens : List Token} :
    Form.WrittenAll forms tokens → ∀ form ∈ forms, form.Only KnownKind
  | .nil => nofun
  | .cons first rest => List.forall_mem_cons.2 ⟨first.only, rest.only⟩

end

/-- A scene in which every identity given out names a node has as many nodes as
    identities. -/
theorem size_of_dense {graph : SceneGraph}
    (dense : ∀ id : NodeId, id.index < graph.nodes.size → graph.Stored id) :
    graph.size = graph.nodes.size := by
  rw [SceneGraph.size, ← Array.length_toList, List.countP_eq_length]
  intro place member
  obtain ⟨index, within, rfl⟩ := List.mem_iff_getElem.1 member
  rw [Array.length_toList] at within
  obtain ⟨node, found⟩ := dense ⟨index⟩ within
  rw [SceneGraph.get?, Array.getElem?_eq_getElem within] at found
  simpa using Option.isSome_iff_exists.2 ⟨node, found⟩

/-- Reading inverts writing: what is read from the text of a form is a scene
    that holds the form from its root on, a `USE` being the latest complete node
    of its name; it has as many nodes as the form writes, and nothing in it is
    unknown or unresolved. -/
theorem parse?_written {form : Form} {names : List String} {written : List Token} {text : String}
    (writes : form.Written written) (inScope : form.Scoped [] names)
    (spells : Spells written text.toList) :
    ∃ graph root log tree,
      parse? text = some (graph, { nodes := form.count, unknownNodes := 0, unresolvedUses := 0 }) ∧
      graph.root = some root ∧ form.Holds graph {} root log ∧ log.names.map (·.1) = names ∧
      graph.size = form.count ∧ graph.unfolding = some tree ∧ graph.Unfolds root tree := by
  have agrees : Assembly.Agrees {} {} := ⟨fun name => by simp, rfl⟩
  obtain ⟨root, log, found, advances, names, holds⟩ :=
    inScope.stored writes.only {} {} agrees rfl
  have stats : (Assembly.add {} form).2.stats = ⟨form.count, 0, 0⟩ := by
    rw [advances.stats]
    simp
  have count : (Assembly.add {} form).2.graph.nodes.size = form.count := by
    rw [advances.agrees.count, advances.counted]
    exact Nat.zero_add form.count
  generalize outcome : Assembly.add {} form = answer at found advances holds stats count
  obtain ⟨answer, assembly⟩ := answer
  simp only at found advances holds stats count
  subst found
  have read : parse? text = some ({ assembly.graph with root := some root }, ⟨form.count, 0, 0⟩) := by
    simp only [parse?, assemble?, tokens_of_spells spells, readRoot?_written writes,
      Option.bind_eq_bind, Option.bind_some, outcome, stats]
  have orderly : assembly.Orderly := by
    have steps := add_steps writes.only Orderly.empty
    rw [outcome] at steps
    exact steps.orderly Orderly.empty
  have size : { assembly.graph with root := some root }.size = form.count :=
    (size_of_dense orderly.dense).trans count
  obtain ⟨wellFormed, -⟩ := wellFormed_of_parse? read
  obtain ⟨tree, unfolding, unfolds⟩ := wellFormed.unfolding_complete rfl
  exact ⟨_, root, log, tree, read, rfl, holds _ ⟨le_rfl, fun _ _ => rfl⟩, names, size, unfolding,
    unfolds⟩

/-- The number that `2` is read as. -/
abbrev two : Float := (⟨false, 2, 0⟩ : Number.Numeral).toDouble

/-- A ball and its use in a separator, as written tokens. -/
theorem written_ball_twice :
    (Form.node (.group .separator)
      [.named "A" (.node (.sphere { radius := two.toFloat32 }) []), .reuse "A"]).Written
      [.word "Separator", .openBrace, .define, .word "A", .word "Sphere", .openBrace,
        .word "radius", .number two, .closeBrace, .reuse, .word "A", .closeBrace] := by
  have rounded : [two].map Float.toFloat32 = [two.toFloat32] := rfl
  have radius : (Entry.number "radius" two.toFloat32).Written [.word "radius", .number two] :=
    .mk (.one (.numbers rounded))
  have ball : (Form.node (.sphere { radius := two.toFloat32 }) []).Written
      [.word "Sphere", .openBrace, .word "radius", .number two, .closeBrace] :=
    .node (.sphere _) (.refl _) (.cons radius .nil) .nil (absurd rfl)
  exact .node .separator (.refl _) .nil (.cons (.named ball) (.cons .reuse .nil)) fun _ => rfl

theorem spells_ball_twice :
    Spells [.word "Separator", .openBrace, .define, .word "A", .word "Sphere", .openBrace,
        .word "radius", .number two, .closeBrace, .reuse, .word "A", .closeBrace]
      "Separator{DEF A Sphere{radius 2}USE A}".toList := by
  have separator : Lexeme (.word "Separator") ['S', 'e', 'p', 'a', 'r', 'a', 't', 'o', 'r'] :=
    .word rfl (by decide) (by decide) (by decide) (by decide)
  have name : Lexeme (.word "A") ['A'] :=
    .word rfl (by decide) (by decide) (by decide) (by decide)
  have sphere : Lexeme (.word "Sphere") ['S', 'p', 'h', 'e', 'r', 'e'] :=
    .word rfl (by decide) (by decide) (by decide) (by decide)
  have radius : Lexeme (.word "radius") ['r', 'a', 'd', 'i', 'u', 's'] :=
    .word rfl (by decide) (by decide) (by decide) (by decide)
  have number : Lexeme (.number two) ['2'] := .number rfl
  have spells := Spells.cons .nil separator (by rintro c ⟨⟩; decide) <|
    .cons .nil .openBrace (by rintro c ⟨⟩; rfl) <|
    .cons .nil .define (by rintro c ⟨⟩; decide) <|
    .cons gap_blank name (by rintro c ⟨⟩; decide) <|
    .cons gap_blank sphere (by rintro c ⟨⟩; decide) <|
    .cons .nil .openBrace (by rintro c ⟨⟩; rfl) <|
    .cons .nil radius (by rintro c ⟨⟩; decide) <|
    .cons gap_blank number (by rintro c ⟨⟩; decide) <|
    .cons .nil .closeBrace (by rintro c ⟨⟩; rfl) <|
    .cons .nil .reuse (by rintro c ⟨⟩; decide) <|
    .cons gap_blank name (by rintro c ⟨⟩; decide) <|
    .cons .nil .closeBrace (by rintro c ⟨⟩) (.nil (.gap .nil))
  exact spells

/-- A ball and its use are read as one node in two places. -/
theorem parse?_ball_twice :
    let form : Form := .node (.group .separator)
      [.named "A" (.node (.sphere { radius := two.toFloat32 }) []), .reuse "A"]
    ∃ graph root log tree,
      parse? "Separator{DEF A Sphere{radius 2}USE A}" = some (graph, ⟨2, 0, 0⟩) ∧
      graph.root = some root ∧ form.Holds graph {} root log ∧ log.names.map (·.1) = ["A"] ∧
      graph.size = 2 ∧ graph.unfolding = some tree ∧ graph.Unfolds root tree :=
  parse?_written written_ball_twice
    (.node (.cons (.named .nil) (.cons (.reuse List.mem_cons_self) .nil))) spells_ball_twice

end VrmlWorld.Document
