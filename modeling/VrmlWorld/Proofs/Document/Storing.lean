/-
  VrmlWorld/Proofs/Document/Storing.lean
  ======================================
  **How a document is stored, step by step.**

  Storing a form makes steps of three kinds only: a node is stored whose
  children are stored, a stored node receives a name, or a use is counted that
  leads nowhere (`Assembly.Step`). `add_steps` shows this once, for every form;
  what each step keeps therefore holds of every scene that is read. The first
  such fact is that children are older than their parents, from which every
  read scene is well formed (`wellFormed_of_parse?`).
-/
import VrmlWorld.Proofs.Scene.WellFormed

namespace VrmlWorld.Document

/-! ### The kinds that a form holds -/

/-- What holds of a node when it holds of its children, of a named form when it
    holds of the form, and of every reuse, holds of all forms. -/
@[elab_as_elim, induction_eliminator]
theorem Form.induction {P : Form → Prop}
    (node : ∀ kind children, (∀ form ∈ children, P form) → P (.node kind children))
    (named : ∀ name form, P form → P (.named name form)) (reuse : ∀ name, P (.reuse name))
    (form : Form) : P form :=
  form.rec (fun kind children => node kind children) named reuse
    (fun _ member => absurd member List.not_mem_nil)
    (fun _ _ first rest => List.forall_mem_cons.2 ⟨first, rest⟩)

/-- All nodes that a form writes are of allowed kinds. -/
inductive Form.Only (allowed : NodeKind → Prop) : Form → Prop where
  | node {kind : NodeKind} {children : List Form} (own : allowed kind)
      (below : ∀ form ∈ children, form.Only allowed) : (Form.node kind children).Only allowed
  | named {name : String} {form : Form} (own : form.Only allowed) :
      (Form.named name form).Only allowed
  | reuse {name : String} : (Form.reuse name).Only allowed

namespace Assembly

variable {assembly next : Assembly} {allowed : NodeKind → Prop} {form : Form} {id : NodeId}

/-! ### Equations -/

theorem add_node (assembly : Assembly) (kind : NodeKind) (children : List Form) :
    assembly.add (.node kind children) =
      (some (assembly.addAll children).2.graph.nextId,
        (assembly.addAll children).2.store kind (assembly.addAll children).1) := by
  simp only [add]

theorem add_named_of_some {name : String} (h : assembly.add form = (some id, next)) :
    assembly.add (.named name form) = (some id, next.giveName name id) := by
  simp only [add, h]

theorem add_named_of_none {name : String} (h : assembly.add form = (none, next)) :
    assembly.add (.named name form) = (none, next) := by
  simp only [add, h]

theorem add_reuse_of_some {name : String} (h : assembly.names[name]? = some id) :
    assembly.add (.reuse name) = (some id, assembly) := by
  simp only [add, h]

theorem add_reuse_of_none {name : String} (h : assembly.names[name]? = none) :
    assembly.add (.reuse name) = (none, assembly.countUnresolved) := by
  simp only [add, h]

theorem addAll_nil (assembly : Assembly) : assembly.addAll [] = ([], assembly) := by
  simp only [addAll]

theorem addAll_cons (assembly : Assembly) (form : Form) (forms : List Form) :
    assembly.addAll (form :: forms) =
      ((assembly.add form).1.toList ++ ((assembly.add form).2.addAll forms).1,
        ((assembly.add form).2.addAll forms).2) := by
  simp only [addAll]

@[simp] theorem graph_store (assembly : Assembly) (kind : NodeKind) (children : List NodeId) :
    (assembly.store kind children).graph = assembly.graph.insert { kind, children } := rfl

@[simp] theorem graph_giveName (assembly : Assembly) (name : String) (id : NodeId) :
    (assembly.giveName name id).graph =
      assembly.graph.modify id fun node => { node with name := some name } := rfl

@[simp] theorem names_giveName (assembly : Assembly) (name : String) (id : NodeId) :
    (assembly.giveName name id).names = assembly.names.insert name id := rfl

/-! ### Steps -/

/-- One step of storing a document of allowed kinds. -/
inductive Step (allowed : NodeKind → Prop) : Assembly → Assembly → Prop where
  | store {assembly : Assembly} {kind : NodeKind} {children : List NodeId} (own : allowed kind)
      (stored : ∀ id ∈ children, assembly.graph.Stored id) :
      Step allowed assembly (assembly.store kind children)
  | giveName {assembly : Assembly} (name : String) {id : NodeId}
      (stored : assembly.graph.Stored id) : Step allowed assembly (assembly.giveName name id)
  | countUnresolved {assembly : Assembly} : Step allowed assembly assembly.countUnresolved

abbrev Steps (allowed : NodeKind → Prop) : Assembly → Assembly → Prop :=
  Relation.ReflTransGen (Step allowed)

/-- What each step keeps, any number of steps keep. -/
theorem Steps.invariant {P : Assembly → Prop} (steps : Steps allowed assembly next)
    (step : ∀ {before after}, Step allowed before after → P before → P after) (h : P assembly) :
    P next := by
  induction steps with
  | refl => exact h
  | tail _ last ih => exact step last ih

theorem Step.stored (step : Step allowed assembly next) (h : assembly.graph.Stored id) :
    next.graph.Stored id := by
  obtain ⟨node, found⟩ := h
  cases step with
  | @store kind children own stored =>
    by_cases same : id = assembly.graph.nextId
    · exact ⟨{ kind, children }, by simp [same]⟩
    · exact ⟨node, by simp [same, found]⟩
  | @giveName name named stored =>
    by_cases same : id = named
    · subst same
      exact ⟨{ node with name := some name }, by simp [found]⟩
    · exact ⟨node, by simp [same, found]⟩
  | countUnresolved => exact ⟨node, found⟩

theorem Steps.stored (steps : Steps allowed assembly next) (h : assembly.graph.Stored id) :
    next.graph.Stored id :=
  steps.invariant (P := (·.graph.Stored id)) Step.stored h

/-! ### Children are older than their parents -/

/-- Every identity given out names a node, children have been stored before
    their parents, and names stand for stored nodes. -/
structure Orderly (assembly : Assembly) : Prop where
  dense : ∀ id, id.index < assembly.graph.nodes.size → assembly.graph.Stored id
  older : assembly.graph.Ranked NodeId.index
  names_stored : ∀ (name : String) (id : NodeId), assembly.names[name]? = some id →
    assembly.graph.Stored id

theorem Orderly.empty : ({} : Assembly).Orderly where
  dense id h := by simp at h
  older parent child step := by
    obtain ⟨node, found⟩ := SceneGraph.stored_of_mem_children step
    simp [SceneGraph.get?] at found
  names_stored name id h := by simp at h

theorem Step.orderly (step : Step allowed assembly next) (orderly : assembly.Orderly) :
    next.Orderly := by
  refine ⟨?_, ?_, ?_⟩
  · intro id lower
    cases step with
    | @store kind children own stored =>
      by_cases same : id = assembly.graph.nextId
      · exact ⟨{ kind, children }, by simp [same]⟩
      · have older : id.index < assembly.graph.nodes.size := by
          have bound : id.index < assembly.graph.nodes.size + 1 := by simpa using lower
          have different : id.index ≠ assembly.graph.nodes.size := fun h =>
            same (by cases id; simp_all [SceneGraph.nextId])
          omega
        exact (Step.store own stored).stored (orderly.dense id older)
    | giveName name stored =>
      have step : Step allowed assembly _ := .giveName name stored
      exact step.stored (orderly.dense id (by simpa using lower))
    | countUnresolved => exact orderly.dense id lower
  · intro parent child below
    cases step with
    | @store kind children own stored =>
      by_cases same : parent = assembly.graph.nextId
      · have member : child ∈ children := by
          simpa [SceneGraph.Child, SceneGraph.children, same] using below
        simpa [same, SceneGraph.nextId] using (stored child member).lt_size
      · exact orderly.older parent child (by
          simpa [SceneGraph.Child, SceneGraph.children, same] using below)
    | @giveName name named stored =>
      refine orderly.older parent child ?_
      obtain ⟨node, found⟩ := stored
      by_cases same : parent = named
      · simpa [SceneGraph.Child, SceneGraph.children, same, found] using below
      · simpa [SceneGraph.Child, SceneGraph.children, same] using below
    | countUnresolved => exact orderly.older parent child below
  · intro name id h
    cases step with
    | store own stored => exact (Step.store own stored).stored (orderly.names_stored name id h)
    | @giveName given named stored =>
      have step : Step allowed assembly _ := .giveName given stored
      refine step.stored ?_
      rw [names_giveName, Std.HashMap.getElem?_insert] at h
      split at h
      · exact Option.some.inj h ▸ stored
      · exact orderly.names_stored name id h
    | countUnresolved => exact orderly.names_stored name id h

theorem Steps.orderly (steps : Steps allowed assembly next) (orderly : assembly.Orderly) :
    next.Orderly :=
  steps.invariant Step.orderly orderly

/-! ### Storing forms -/

/-- Storing a form makes steps, and answers with a stored node if it answers;
    so does storing forms one after the other. -/
theorem add_steps_and_addAll_steps (allowed : NodeKind → Prop) :
    (∀ (assembly : Assembly) (form : Form), form.Only allowed → assembly.Orderly →
      Steps allowed assembly (assembly.add form).2 ∧
        ∀ id, (assembly.add form).1 = some id → (assembly.add form).2.graph.Stored id) ∧
    (∀ (assembly : Assembly) (forms : List Form), (∀ form ∈ forms, form.Only allowed) →
      assembly.Orderly → Steps allowed assembly (assembly.addAll forms).2 ∧
        ∀ id ∈ (assembly.addAll forms).1, (assembly.addAll forms).2.graph.Stored id) := by
  apply add.mutual_induct
  case case1 =>
    intro assembly kind children ids filled all ih only orderly
    cases only with
    | node own below =>
      obtain ⟨steps, stored⟩ := ih below orderly
      rw [add_node]
      refine ⟨steps.tail (.store own stored), ?_⟩
      rintro id ⟨⟩
      exact ⟨{ kind, children := (assembly.addAll children).1 }, by simp⟩
  case case2 =>
    intro assembly name form id next found ih only orderly
    cases only with
    | named own =>
      obtain ⟨steps, stored⟩ := ih own orderly
      simp only [found] at steps stored
      rw [add_named_of_some found]
      have step : Step allowed next _ := .giveName name (stored id rfl)
      refine ⟨steps.tail step, ?_⟩
      rintro other ⟨⟩
      exact step.stored (stored id rfl)
  case case3 =>
    intro assembly name form filled found ih only orderly
    cases only with
    | named own =>
      obtain ⟨steps, -⟩ := ih own orderly
      rw [add_named_of_none found]
      exact ⟨by simpa [found] using steps, by simp⟩
  case case4 =>
    intro assembly name id found _ orderly
    rw [add_reuse_of_some found]
    refine ⟨.refl, ?_⟩
    rintro other ⟨⟩
    exact orderly.names_stored name id found
  case case5 =>
    intro assembly name found _ orderly
    rw [add_reuse_of_none found]
    exact ⟨.single .countUnresolved, by simp⟩
  case case6 =>
    intro assembly _ orderly
    rw [addAll_nil]
    exact ⟨.refl, by simp⟩
  case case7 =>
    intro assembly form forms id filled found ids filledAll foundAll ihForm ihForms only orderly
    rw [addAll_cons]
    obtain ⟨steps, stored⟩ := ihForm (only form (by simp)) orderly
    simp only [found] at steps stored
    obtain ⟨stepsAll, storedAll⟩ :=
      ihForms (fun other member => only other (by simp [member])) (steps.orderly orderly)
    simp only [found]
    refine ⟨steps.trans stepsAll, ?_⟩
    intro other member
    obtain own | later := List.mem_append.1 member
    · exact stepsAll.stored (stored other (by simpa using own))
    · exact storedAll other later

theorem add_steps (only : form.Only allowed) (orderly : assembly.Orderly) :
    Steps allowed assembly (assembly.add form).2 :=
  ((add_steps_and_addAll_steps allowed).1 assembly form only orderly).1

/-- The node that a form stands for is the one stored last, unless the form
    repeats a node that had a name before. -/
theorem add_last_or_named (h : (assembly.add form).1 = some id) :
    id.index + 1 = (assembly.add form).2.graph.nodes.size ∨
      ∃ name : String, assembly.names[name]? = some id := by
  induction form with
  | node kind children _ =>
    left
    rw [add_node] at h ⊢
    cases h
    simp [SceneGraph.nextId]
  | named name form ih =>
    cases found : assembly.add form with
    | mk answer next =>
      cases answer with
      | none => simp [add_named_of_none found] at h
      | some other =>
        rw [add_named_of_some found] at h ⊢
        rw [found] at ih
        simpa using ih h
  | reuse name =>
    right
    cases found : assembly.names[name]? with
    | none => simp [add_reuse_of_none found] at h
    | some other =>
      rw [add_reuse_of_some found] at h
      exact ⟨name, h ▸ found⟩

end Assembly

/-! ### Scenes that are read -/

theorem Form.only_true (form : Form) : form.Only fun _ => True := by
  induction form with
  | node kind children ih => exact .node trivial ih
  | named name form ih => exact .named ih
  | reuse name => exact .reuse

/-- What a text that can be read is stored as. -/
theorem parse?_eq_some {text : String} {graph : SceneGraph} {stats : Stats}
    (h : parse? text = some (graph, stats)) :
    ∃ form root, readRoot? (tokens text) = some form ∧ (Assembly.add {} form).1 = some root ∧
      graph = { (Assembly.add {} form).2.graph with root := some root } ∧
      stats = (Assembly.add {} form).2.stats := by
  simp only [parse?, assemble?, Option.bind_eq_bind, Option.bind_eq_some_iff] at h
  obtain ⟨form, read, h⟩ := h
  split at h
  · rename_i root assembly added
    simp only [Option.some.injEq, Prod.mk.injEq] at h
    obtain ⟨rfl, rfl⟩ := h
    exact ⟨form, root, read, by simp [added], by simp [added], by simp [added]⟩
  · cases h

theorem parse?_of_form {text : String} {form : Form} {root : NodeId}
    (read : readRoot? (tokens text) = some form) (added : (Assembly.add {} form).1 = some root) :
    parse? text = some ({ (Assembly.add {} form).2.graph with root := some root },
      (Assembly.add {} form).2.stats) := by
  simp only [parse?, assemble?, read, Option.bind_eq_bind, Option.bind_some]
  generalize Assembly.add {} form = answer at added
  obtain ⟨_, assembly⟩ := answer
  cases added
  rfl

/-- Every scene that is read is well formed and has a root. -/
theorem wellFormed_of_parse? {text : String} {graph : SceneGraph} {stats : Stats}
    (h : parse? text = some (graph, stats)) :
    graph.WellFormed ∧ ∃ root, graph.root = some root := by
  obtain ⟨form, root, -, added, rfl, -⟩ := parse?_eq_some h
  have steps : Assembly.Steps (fun _ => True) {} (Assembly.add {} form).2 :=
    Assembly.add_steps form.only_true Assembly.Orderly.empty
  have orderly := steps.orderly Assembly.Orderly.empty
  have last : root.index + 1 = (Assembly.add {} form).2.graph.nodes.size := by
    obtain last | ⟨name, named⟩ := Assembly.add_last_or_named added
    · exact last
    · simp at named
  have below : ∀ parent child, SceneGraph.Child (Assembly.add {} form).2.graph parent child →
      child.index < parent.index ∧ parent.index < (Assembly.add {} form).2.graph.nodes.size :=
    fun parent child step =>
      ⟨orderly.older parent child step, (SceneGraph.stored_of_mem_children step).lt_size⟩
  refine ⟨⟨?_, ?_, ?_, ?_⟩, root, rfl⟩
  · rintro other ⟨⟩
    exact orderly.dense root (by omega)
  · rintro other ⟨⟩ parent step
    have := below parent root step
    omega
  · intro parent child step
    have := below parent child step
    exact orderly.dense child (by omega)
  · exact SceneGraph.Ranked.acyclic orderly.older

end VrmlWorld.Document
