/-
  VrmlWorld/Proofs/Document/Ledger.lean
  =====================================
  **Every node that is read is accounted for.**

  Whatever a text is like, each node that it makes the reader store is handed to one
  parent, or is the root: the nodes stored for a form are found below the node that the
  form stands for (`gathers_add`). A form that stands for nothing is a chain of names
  before a `USE` that leads nowhere, and stores nothing. The counts go with the steps
  of storing. Which uses lead nowhere is told from the form alone: `Form.uses` lists
  them in reading order, each with the names of the nodes complete before it.
-/
import VrmlWorld.Proofs.Document.Marks
import VrmlWorld.Proofs.Scene.Grafting

namespace VrmlWorld

namespace SceneGraph

variable {graph : SceneGraph}

/-! ### Nodes of a kind -/

/-- The number of stored nodes whose kind has a property. -/
def countKind (graph : SceneGraph) (p : NodeKind → Bool) : Nat :=
  graph.nodes.toList.countP fun slot => slot.any fun node => p node.kind

theorem countKind_insert (graph : SceneGraph) (node : Node) (p : NodeKind → Bool) :
    (graph.insert node).countKind p = graph.countKind p + if p node.kind then 1 else 0 := by
  simp [countKind, insert, List.countP_append, List.countP_singleton]

/-- A change that keeps the kind of a node keeps these numbers. -/
theorem countKind_modify (graph : SceneGraph) (id : NodeId) (change : Node → Node)
    (same : ∀ node, (change node).kind = node.kind) (p : NodeKind → Bool) :
    (graph.modify id change).countKind p = graph.countKind p := by
  have slots (slot : Option Node) :
      (slot.map change).any (fun node => p node.kind) = slot.any fun node => p node.kind := by
    cases slot <;> simp [same]
  have marks : (graph.modify id change).nodes.toList.map (·.any fun node => p node.kind) =
      graph.nodes.toList.map (·.any fun node => p node.kind) := by
    refine List.ext_getElem? fun place => ?_
    simp only [modify, Array.toList_modify, List.getElem?_map, List.getElem?_modify]
    by_cases here : id.index = place
    · cases graph.nodes.toList[place]? <;> simp [here, slots]
    · cases graph.nodes.toList[place]? <;> simp [here]
  have count := congrArg (List.countP fun mark => mark) marks
  simpa [countKind, List.countP_map, Function.comp_def] using count

end SceneGraph

def NodeKind.isUnknown : NodeKind → Bool
  | .unknown _ => true
  | _ => false

namespace Document

/-! ### Uses of names -/

/-- A `USE` that is read, and the names of the nodes complete before it. -/
structure Use where
  name : String
  known : List String
deriving DecidableEq, Repr

/-- There is no node for the use to repeat. -/
def Use.LeadsNowhere (use : Use) : Prop := use.name ∉ use.known

instance : DecidablePred Use.LeadsNowhere := fun use =>
  inferInstanceAs (Decidable (use.name ∉ use.known))

/-- Whether a form stands for a node: what is behind its names does, and a `USE` does
    if its name is known. -/
def Form.stands (known : List String) : Form → Bool
  | .node _ _ => true
  | .named _ form => form.stands known
  | .reuse name => name ∈ known

mutual

/-- The names of complete nodes behind a form. A name that is given to nothing is none
    of them. -/
def Form.behind (known : List String) : Form → List String
  | .node _ children => Form.behindAll known children
  | .named name form =>
      if form.stands known then name :: form.behind known else form.behind known
  | .reuse _ => known

def Form.behindAll (known : List String) : List Form → List String
  | [] => known
  | form :: forms => Form.behindAll (form.behind known) forms

end

mutual

/-- The uses in a form, in reading order. -/
def Form.uses (known : List String) : Form → List Use
  | .node _ children => Form.usesAll known children
  | .named _ form => form.uses known
  | .reuse name => [⟨name, known⟩]

def Form.usesAll (known : List String) : List Form → List Use
  | [] => []
  | form :: forms => form.uses known ++ Form.usesAll (form.behind known) forms

end

mutual

/-- Every node and every use has a mark of its own. -/
theorem Form.Marked.count_add_length_uses_le {form : Form} {marks : List (List Token)}
    (known : List String) : form.Marked marks →
      form.count + (form.uses known).length ≤ marks.length
  | .node _ below => by
    have all := below.count_add_length_uses_le known
    simp only [Form.count, Form.uses, List.length_cons]
    omega
  | .named own => by
    have inside := own.count_add_length_uses_le known
    simp only [Form.count, Form.uses, List.length_cons]
    omega
  | .reuse => by simp [Form.count, Form.uses]

theorem Form.MarkedAll.count_add_length_uses_le {forms : List Form} {marks : List (List Token)}
    (known : List String) : Form.MarkedAll forms marks →
      Form.countAll forms + (Form.usesAll known forms).length ≤ marks.length
  | .nil => by simp [Form.countAll, Form.usesAll]
  | @Form.MarkedAll.cons form _ _ _ first rest => by
    have own := first.count_add_length_uses_le known
    have others := rest.count_add_length_uses_le (form.behind known)
    simp only [Form.countAll, Form.usesAll, List.length_append]
    omega

end

namespace Assembly

variable {assembly next : Assembly}

/-! ### Counts -/

/-- The counts are those of the stored nodes. -/
structure Counted (assembly : Assembly) : Prop where
  nodes : assembly.stats.nodes = assembly.graph.nodes.size
  unknown : assembly.stats.unknownNodes = assembly.graph.countKind NodeKind.isUnknown

theorem Counted.empty : ({} : Assembly).Counted := ⟨rfl, rfl⟩

theorem Step.counted {allowed : NodeKind → Prop} (step : Step allowed assembly next)
    (counted : assembly.Counted) : next.Counted := by
  cases step with
  | @store kind children own stored =>
    have mark : (match kind with
        | .unknown _ => 1
        | _ => 0) = if kind.isUnknown then 1 else 0 := by cases kind <;> rfl
    refine ⟨?_, ?_⟩
    · rw [graph_store, SceneGraph.size_nodes_insert, ← counted.nodes]
      rfl
    · rw [graph_store, SceneGraph.countKind_insert, ← counted.unknown, ← mark]
      rfl
  | @giveName name id stored =>
    have same (node : Node) : ({ node with name := some name } : Node).kind = node.kind := rfl
    refine ⟨?_, ?_⟩
    · rw [graph_giveName, SceneGraph.size_nodes_modify, ← counted.nodes]
      rfl
    · rw [graph_giveName, SceneGraph.countKind_modify _ _ _ same, ← counted.unknown]
      rfl
  | countUnresolved => exact ⟨counted.nodes, counted.unknown⟩

/-- Exactly the known names stand for nodes. -/
def Knows (assembly : Assembly) (known : List String) : Prop :=
  ∀ name : String, name ∈ known ↔ ∃ id, assembly.names[name]? = some id

theorem knows_empty : ({} : Assembly).Knows [] := by
  intro name
  simp

/-- What has been stored in between: so many nodes, and the uses that lead nowhere are
    counted. -/
structure Records (assembly next : Assembly) (behind : List String) (uses : List Use)
    (count : Nat) : Prop where
  knows : next.Knows behind
  unresolved : next.stats.unresolvedUses =
    assembly.stats.unresolvedUses + uses.countP (·.LeadsNowhere)
  size : next.graph.nodes.size = assembly.graph.nodes.size + count

theorem Records.trans {later : Assembly} {known behind : List String} {uses more : List Use}
    {count others : Nat} (first : Records assembly next known uses count)
    (rest : Records next later behind more others) :
    Records assembly later behind (uses ++ more) (count + others) where
  knows := rest.knows
  unresolved := by
    rw [rest.unresolved, first.unresolved, List.countP_append, Nat.add_assoc]
  size := by rw [rest.size, first.size, Nat.add_assoc]

theorem records_addAll {forms : List Form}
    (each : ∀ form ∈ forms, ∀ {assembly : Assembly} {known : List String}, assembly.Knows known →
      Records assembly (assembly.add form).2 (form.behind known) (form.uses known) form.count)
    {known : List String} (knows : assembly.Knows known) :
    Records assembly (assembly.addAll forms).2 (Form.behindAll known forms)
      (Form.usesAll known forms) (Form.countAll forms) := by
  induction forms generalizing assembly known with
  | nil =>
    rw [addAll_nil]
    exact ⟨knows, rfl, rfl⟩
  | cons form forms ih =>
    have first := each form List.mem_cons_self knows
    rw [addAll_cons]
    exact first.trans (ih (fun other member => each other (List.mem_cons_of_mem _ member))
      first.knows)

/-- Storing a form answers with a node exactly if the form stands for one, and records
    what the form holds. -/
theorem stands_and_records (form : Form) {known : List String} (knows : assembly.Knows known) :
    (assembly.add form).1.isSome = form.stands known ∧
      Records assembly (assembly.add form).2 (form.behind known) (form.uses known) form.count := by
  induction form generalizing assembly known with
  | node kind children ih =>
    have below := records_addAll (fun form member _ _ knows => (ih form member knows).2) knows
    rw [add_node]
    exact ⟨rfl, below.knows, below.unresolved, by simp [below.size, Form.count, Nat.add_assoc]⟩
  | named name form ih =>
    obtain ⟨stands, records⟩ := ih knows
    cases outcome : assembly.add form with
    | mk answer next =>
      rw [outcome] at stands records
      cases answer with
      | none =>
        have nothing : form.stands known = false := stands.symm
        rw [add_named_of_none outcome]
        refine ⟨stands, ?_, records.unresolved, records.size⟩
        simpa [Form.behind, nothing] using records.knows
      | some id =>
        have something : form.stands known = true := stands.symm
        rw [add_named_of_some outcome]
        refine ⟨stands, ?_, records.unresolved, by simpa [Form.count] using records.size⟩
        intro other
        -- A name that is given again stands for a later node, and is known as before.
        rw [names_giveName, Std.HashMap.getElem?_insert, Form.behind, if_pos something,
          List.mem_cons, records.knows other]
        by_cases same : name = other
        · simp [same]
        · simp [same, Ne.symm same]
  | reuse name =>
    cases found : assembly.names[name]? with
    | some id =>
      have stands : name ∈ known := (knows name).2 ⟨id, found⟩
      rw [add_reuse_of_some found]
      refine ⟨by simp [Form.stands, stands], knows, ?_, rfl⟩
      simp [Form.uses, Use.LeadsNowhere, stands]
    | none =>
      have nothing : name ∉ known := by simp [knows name, found]
      rw [add_reuse_of_none found]
      refine ⟨by simp [Form.stands, nothing], knows, ?_, rfl⟩
      simp [Form.uses, Use.LeadsNowhere, nothing, countUnresolved]

/-! ### Nodes below the node of a form -/

theorem Step.child {allowed : NodeKind → Prop} (step : Step allowed assembly next)
    {parent child : NodeId} (below : assembly.graph.Child parent child) :
    next.graph.Child parent child := by
  obtain ⟨node, found⟩ := SceneGraph.stored_of_mem_children below
  cases step with
  | store own stored =>
    have older : parent ≠ assembly.graph.nextId := by
      rintro rfl
      exact Nat.lt_irrefl _ (SceneGraph.stored_of_get? found).lt_size
    simpa [SceneGraph.Child, SceneGraph.children, older] using below
  | @giveName name named stored =>
    by_cases same : parent = named
    · subst same
      simpa [SceneGraph.Child, SceneGraph.children, found] using below
    · simpa [SceneGraph.Child, SceneGraph.children, same] using below
  | countUnresolved => exact below

theorem Steps.reach {allowed : NodeKind → Prop} (steps : Steps allowed assembly next)
    {top id : NodeId} (path : Relation.ReflTransGen assembly.graph.Child top id) :
    Relation.ReflTransGen next.graph.Child top id := by
  refine Relation.ReflTransGen.mono (fun parent child below => ?_) _ _ path
  exact steps.invariant (P := fun assembly => assembly.graph.Child parent child)
    (fun step => step.child) below

/-- The nodes stored in between are found from some nodes on. -/
def Gathers (assembly next : Assembly) (tops : List NodeId) : Prop :=
  ∀ id : NodeId, assembly.graph.nodes.size ≤ id.index → id.index < next.graph.nodes.size →
    ∃ top ∈ tops, Relation.ReflTransGen next.graph.Child top id

theorem gathers_addAll {forms : List Form}
    (each : ∀ form ∈ forms, ∀ {assembly : Assembly}, assembly.Orderly →
      Gathers assembly (assembly.add form).2 (assembly.add form).1.toList)
    (orderly : assembly.Orderly) :
    Gathers assembly (assembly.addAll forms).2 (assembly.addAll forms).1 := by
  induction forms generalizing assembly with
  | nil =>
    intro id newer older
    rw [addAll_nil] at older
    exact absurd older (Nat.not_lt.2 newer)
  | cons form forms ih =>
    have orderly' := (add_steps form.only_true orderly).orderly orderly
    have rest := ih (fun other member => each other (List.mem_cons_of_mem _ member)) orderly'
    have steps : Steps (fun _ => True) (assembly.add form).2
        ((assembly.add form).2.addAll forms).2 :=
      ((add_steps_and_addAll_steps _).2 _ forms (fun form _ => form.only_true) orderly').1
    rw [addAll_cons]
    intro id newer older
    by_cases own : id.index < (assembly.add form).2.graph.nodes.size
    · obtain ⟨top, among, path⟩ := each form List.mem_cons_self orderly id newer own
      exact ⟨top, List.mem_append_left _ among, steps.reach path⟩
    · obtain ⟨top, among, path⟩ := rest id (Nat.le_of_not_lt own) older
      exact ⟨top, List.mem_append_right _ among, path⟩

/-- Each node that is stored for a form is handed on to the node of the form. A form
    that stands for no node has none stored. -/
theorem gathers_add (form : Form) (orderly : assembly.Orderly) :
    Gathers assembly (assembly.add form).2 (assembly.add form).1.toList := by
  induction form generalizing assembly with
  | node kind children ih =>
    have below := gathers_addAll (fun form member _ orderly => ih form member orderly) orderly
    have stored := ((add_steps_and_addAll_steps _).2 assembly children
      (fun form _ => form.only_true) orderly).2
    have step : Step (fun _ => True) (assembly.addAll children).2
        ((assembly.addAll children).2.store kind (assembly.addAll children).1) :=
      .store trivial stored
    rw [add_node]
    intro id newer older
    refine ⟨_, List.mem_singleton_self _, ?_⟩
    by_cases own : id.index < (assembly.addAll children).2.graph.nodes.size
    · -- The new node is above the nodes of its children, and these have gathered the others.
      obtain ⟨top, among, path⟩ := below id newer own
      refine .head ?_ (Steps.reach (.single step) path)
      simpa [SceneGraph.Child, SceneGraph.children] using among
    · have last : id = (assembly.addAll children).2.graph.nextId := by
        obtain ⟨index⟩ := id
        simp only [graph_store, SceneGraph.size_nodes_insert] at older own
        simp only [SceneGraph.nextId, NodeId.mk.injEq]
        omega
      exact last ▸ .refl
  | named name form ih =>
    have below := ih orderly
    cases outcome : assembly.add form with
    | mk answer next =>
      rw [outcome] at below
      cases answer with
      | none =>
        rw [add_named_of_none outcome]
        exact below
      | some top =>
        rw [add_named_of_some outcome]
        have stored : next.graph.Stored top := by
          have stored := ((add_steps_and_addAll_steps _).1 assembly form form.only_true orderly).2
          rw [outcome] at stored
          exact stored top rfl
        have step : Step (fun _ => True) next _ := .giveName name stored
        intro id newer older
        obtain ⟨other, among, path⟩ := below id newer (by simpa using older)
        exact ⟨other, among, Steps.reach (.single step) path⟩
  | reuse name =>
    intro id newer older
    cases found : assembly.names[name]? with
    | some top =>
      rw [add_reuse_of_some found] at older
      exact absurd older (Nat.not_lt.2 newer)
    | none =>
      rw [add_reuse_of_none found] at older
      exact absurd older (Nat.not_lt.2 newer)

/-! ### From an empty scene on -/

theorem orderly_add (form : Form) : (Assembly.add {} form).2.Orderly :=
  (add_steps form.only_true Orderly.empty).orderly Orderly.empty

theorem counted_add (form : Form) : (Assembly.add {} form).2.Counted :=
  (add_steps form.only_true Orderly.empty).invariant (fun step => step.counted) Counted.empty

theorem size_add (form : Form) :
    (Assembly.add {} form).2.graph.size = (Assembly.add {} form).2.stats.nodes :=
  (size_of_dense (orderly_add form).dense).trans (counted_add form).nodes.symm

theorem nodes_add (form : Form) : (Assembly.add {} form).2.stats.nodes = form.count := by
  rw [(counted_add form).nodes, (stands_and_records form knows_empty).2.size]
  exact Nat.zero_add form.count

theorem unresolvedUses_add (form : Form) :
    (Assembly.add {} form).2.stats.unresolvedUses = (form.uses []).countP (·.LeadsNowhere) := by
  rw [(stands_and_records form knows_empty).2.unresolved]
  exact Nat.zero_add _

end Assembly

/-! ### Whole documents -/

open Assembly

/-- Of every text that can be read, all stored nodes are found from the root on; there
    are as many as the counts say and as the text writes, placeholders likewise, and
    the uses counted as unresolved are those that were read when no node of the name
    was complete. -/
theorem parse?_accounts {text : String} {graph : SceneGraph} {stats : Stats}
    (read : parse? text = some (graph, stats)) :
    (∃ root, graph.root = some root ∧
      ∀ id, graph.Stored id → Relation.ReflTransGen graph.Child root id) ∧
    graph.size = stats.nodes ∧
    graph.countKind NodeKind.isUnknown = stats.unknownNodes ∧
    ∃ form marks, readRoot? (tokens text) = some form ∧
      form.Marked marks ∧ Along marks (tokens text) ∧ form.count = stats.nodes ∧
      (form.uses []).countP (·.LeadsNowhere) = stats.unresolvedUses := by
  obtain ⟨form, root, isForm, added, rfl, rfl⟩ := parse?_eq_some read
  obtain ⟨marks, marked, along⟩ := marked_of_readRoot? isForm
  refine ⟨⟨root, rfl, ?_⟩, size_add form, (counted_add form).unknown.symm, form, marks, isForm,
    marked, along, (nodes_add form).symm, (unresolvedUses_add form).symm⟩
  intro id stored
  obtain ⟨top, among, path⟩ := gathers_add form Orderly.empty id (Nat.zero_le _) stored.lt_size
  obtain rfl : top = root := by simpa [added] using among
  exact path

theorem tokens_use_inside_itself : tokens "DEF A Group{USE A DEF B Cube{}USE B Fog{}}" =
    [.define, .word "A", .word "Group", .openBrace, .reuse, .word "A", .define, .word "B",
      .word "Cube", .openBrace, .closeBrace, .reuse, .word "B", .word "Fog", .openBrace,
      .closeBrace, .closeBrace] := by
  decide +kernel

theorem readRoot?_use_inside_itself :
    readRoot? (tokens "DEF A Group{USE A DEF B Cube{}USE B Fog{}}") =
      some (.named "A" (.node (.group .group) [.reuse "A", .named "B" (.node (.cube {}) []),
        .reuse "B", .node (.unknown "Fog") []])) := by
  have group : NodeType.named? "Group" = some NodeType.group := rfl
  have cube : NodeType.named? "Cube" = some NodeType.cube := rfl
  have fog : NodeType.named? "Fog" = none := rfl
  rw [tokens_use_inside_itself, readRoot?_cons, formAt_define rfl, formAt_parent group rfl,
    bodyAt_child rfl rfl, formAt_reuse, bodyAt_child rfl rfl, formAt_define rfl,
    formAt_single cube rfl]
  simp only [readFields]
  rw [bodyAt_child rfl rfl, formAt_reuse, bodyAt_child rfl rfl, formAt_unknown fog]
  simp only [skipBlock, skipBlocks, bodyAt_close]
  rfl

theorem parse?_use_inside_itself :
    ∃ graph, parse? "DEF A Group{USE A DEF B Cube{}USE B Fog{}}" = some (graph, ⟨3, 1, 1⟩) := by
  have form := readRoot?_use_inside_itself
  generalize isForm : Form.named "A" _ = whole at form
  have stored : (Assembly.add {} whole).1.isSome ∧
      (Assembly.add {} whole).2.stats = ⟨3, 1, 1⟩ := by
    simp [← isForm, Assembly.add, Assembly.addAll, countUnresolved, store, giveName]
  obtain ⟨root, added⟩ := Option.isSome_iff_exists.1 stored.1
  exact ⟨_, stored.2 ▸ parse?_of_form form added⟩

/-- A use inside of the node that has its name leads nowhere; one behind it does not. -/
theorem accounts_use_inside_itself :
    ∃ graph, parse? "DEF A Group{USE A DEF B Cube{}USE B Fog{}}" = some (graph, ⟨3, 1, 1⟩) ∧
      (∃ root, graph.root = some root ∧
        ∀ id, graph.Stored id → Relation.ReflTransGen graph.Child root id) ∧
      graph.size = 3 ∧ graph.countKind NodeKind.isUnknown = 1 ∧
      ∃ form : Form, form.uses [] = [⟨"A", []⟩, ⟨"B", ["B"]⟩] ∧
        (form.uses []).countP (·.LeadsNowhere) = 1 := by
  obtain ⟨graph, read⟩ := parse?_use_inside_itself
  obtain ⟨reached, size, unknown, form, -, isForm, -, -, -, unresolved⟩ := parse?_accounts read
  cases readRoot?_use_inside_itself.symm.trans isForm
  exact ⟨graph, read, reached, size, unknown, _, by decide, unresolved⟩

end Document

end VrmlWorld
