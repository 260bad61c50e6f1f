/-
  VrmlWorld/Proofs/Scene/Handles.lean
  ===================================
  **A handle names its node as long as the node is stored.**

  Places of storage are taken, left and taken again, so a place says little
  about a node; a place with its turn says everything. `Storage.Keeps` is the
  invariant behind this: every stored node has exactly one handle, and the
  places that wait to be taken are empty. Whatever is put or taken, the handles
  of all other nodes stay what they are.
-/
import VrmlWorld.Proofs.Document.Storing
import VrmlWorld.Proofs.Scene.Splice
import Mathlib.Data.List.Nodup

namespace VrmlWorld

namespace Storage

variable {storage : Storage} {id other : NodeId} {handle : Handle} {kept : NodeId → Prop}

/-! ### Places -/

theorem node?_eq_some_iff : storage.node? handle = some id ↔
    storage.places[handle.place]? = some ⟨some id, handle.turn⟩ := by
  rw [node?, Option.bind_eq_some_iff]
  constructor
  · rintro ⟨⟨node, turn⟩, found, same⟩
    split at same
    · rename_i turns
      simp only at same turns
      rw [found, same, turns]
    · cases same
  · intro found
    exact ⟨_, found, by simp⟩

theorem exists_node?_of_placeOf? {place : Nat} (h : storage.placeOf? id = some place) :
    ∃ turn, storage.places[place]? = some ⟨some id, turn⟩ ∧ storage.handle id = ⟨place, turn⟩ := by
  obtain ⟨inside, same, -⟩ := Array.findIdx?_eq_some_iff_getElem.1 h
  have node : storage.places[place].node = some id := by simpa using same
  refine ⟨storage.places[place].turn, ?_, ?_⟩
  · rw [Array.getElem?_eq_getElem inside, ← node]
  · simp [Storage.handle, h, inside]

theorem node?_ne_of_placeOf? (h : storage.placeOf? id = none) (handle : Handle) :
    storage.node? handle ≠ some id := by
  intro found
  rw [node?_eq_some_iff] at found
  have absent := Array.findIdx?_eq_none_iff.1 h _ (Array.mem_of_getElem? found)
  simp at absent

theorem node?_handle (h : storage.node? handle = some id) :
    storage.node? (storage.handle id) = some id := by
  cases place : storage.placeOf? id with
  | none => exact absurd h (node?_ne_of_placeOf? place handle)
  | some place' =>
    obtain ⟨turn, found, same⟩ := exists_node?_of_placeOf? place
    rw [same, node?_eq_some_iff]
    exact found

/-- Taking a node ends its handle, and no other one. -/
theorem node?_take (storage : Storage) (id : NodeId) (handle : Handle) :
    (storage.take id).node? handle =
      if handle = storage.handle id then none else storage.node? handle := by
  cases h : storage.placeOf? id with
  | none =>
    have beyond : storage.handle id = ⟨storage.places.size, 0⟩ := by simp [Storage.handle, h]
    simp only [take, h, beyond]
    split
    · rename_i same
      simp [same, node?]
    · rfl
  | some place =>
    obtain ⟨turn, found, same⟩ := exists_node?_of_placeOf? h
    obtain ⟨here, now⟩ := handle
    simp only [take, h, same, node?, Handle.mk.injEq, Array.getElem?_modify]
    by_cases there : here = place
    · subst there
      by_cases turns : now = turn
      · simp [found, turns]
      · simp [found, turns, Ne.symm turns]
    · simp [there, Ne.symm there]

/-! ### The invariant -/

/-- The handle that the next node receives. -/
def fresh (storage : Storage) : Handle :=
  match storage.empty with
  | place :: _ => ⟨place, ((storage.places[place]?).map (·.turn)).getD 0⟩
  | [] => ⟨storage.places.size, 0⟩

/-- Exactly some nodes are kept, each under one handle, and the places that
    wait to be taken are empty. -/
structure Keeps (storage : Storage) (kept : NodeId → Prop) : Prop where
  kept_iff : ∀ id, kept id ↔ ∃ handle, storage.node? handle = some id
  unique : ∀ {id handle other}, storage.node? handle = some id →
    storage.node? other = some id → handle = other
  empty_places : ∀ place ∈ storage.empty, ∃ turn, storage.places[place]? = some { turn }
  empty_nodup : storage.empty.Nodup

namespace Keeps

theorem nothing : ({} : Storage).Keeps fun _ => False where
  kept_iff id := by simp [node?]
  unique found := by simp [node?] at found
  empty_places place member := nomatch member
  empty_nodup := List.nodup_nil

theorem congr (keeps : storage.Keeps kept) {kept' : NodeId → Prop}
    (same : ∀ id, kept' id ↔ kept id) : storage.Keeps kept' :=
  ⟨fun id => (same id).trans (keeps.kept_iff id), keeps.unique, keeps.empty_places,
    keeps.empty_nodup⟩

theorem handle_eq (keeps : storage.Keeps kept) (h : storage.node? handle = some id) :
    storage.handle id = handle :=
  keeps.unique (node?_handle h) h

theorem node?_handle_of_kept (keeps : storage.Keeps kept) (h : kept id) :
    storage.node? (storage.handle id) = some id := by
  obtain ⟨handle, found⟩ := (keeps.kept_iff id).1 h
  exact node?_handle found

theorem node?_put (keeps : storage.Keeps kept) (id : NodeId) (handle : Handle) :
    (storage.put id).node? handle =
      if handle = storage.fresh then some id else storage.node? handle := by
  obtain ⟨here, now⟩ := handle
  cases waiting : storage.empty with
  | cons place others =>
    obtain ⟨turn, found⟩ := keeps.empty_places place (by simp [waiting])
    simp only [Storage.put, fresh, waiting, node?, Array.getElem?_modify]
    by_cases there : here = place
    · subst there
      by_cases turns : now = turn
      · simp [found, turns]
      · simp [found, turns, Ne.symm turns]
    · simp [there, Ne.symm there]
  | nil =>
    simp only [Storage.put, fresh, waiting, node?, Array.getElem?_push]
    by_cases there : here = storage.places.size
    · by_cases turns : now = 0
      · simp [there, turns]
      · simp [there, turns, Ne.symm turns]
    · simp [there]

theorem node?_fresh (keeps : storage.Keeps kept) : storage.node? storage.fresh = none := by
  rw [fresh]
  split
  · rename_i place others waiting
    obtain ⟨turn, found⟩ := keeps.empty_places place (by simp [waiting])
    simp [node?, found]
  · simp [node?]

/-- Putting a node gives it a handle that stood for no node. -/
theorem put (keeps : storage.Keeps kept) (new : ¬ kept id) :
    (storage.put id).Keeps fun other => kept other ∨ other = id := by
  have noHandle : ∀ handle, storage.node? handle ≠ some id := fun handle found =>
    new ((keeps.kept_iff id).2 ⟨handle, found⟩)
  refine ⟨?_, ?_, ?_, ?_⟩
  · intro other
    simp only [keeps.node?_put]
    constructor
    · rintro (old | rfl)
      · obtain ⟨handle, found⟩ := (keeps.kept_iff other).1 old
        have different : handle ≠ storage.fresh := by
          rintro rfl
          rw [keeps.node?_fresh] at found
          cases found
        exact ⟨handle, by rw [if_neg different, found]⟩
      · exact ⟨storage.fresh, if_pos rfl⟩
    · rintro ⟨handle, found⟩
      split at found
      · exact .inr (Option.some.inj found).symm
      · exact .inl ((keeps.kept_iff other).2 ⟨handle, found⟩)
  · intro other handle handle' found found'
    rw [keeps.node?_put] at found found'
    split at found <;> split at found'
    · rename_i same same'
      rw [same, same']
    · exact absurd (found'.trans found.symm) (noHandle handle')
    · exact absurd (found.trans found'.symm) (noHandle handle)
    · exact keeps.unique found found'
  · intro place member
    rw [Storage.put] at member ⊢
    split at member
    · rename_i taken others waiting
      obtain ⟨turn, found⟩ := keeps.empty_places place (by simp [waiting, member])
      have apart : taken ≠ place := by
        rintro rfl
        have nodup := keeps.empty_nodup
        rw [waiting] at nodup
        exact (List.nodup_cons.1 nodup).1 member
      exact ⟨turn, by simp [Array.getElem?_modify, apart, found]⟩
    · cases member
  · have nodup := keeps.empty_nodup
    rw [Storage.put]
    split
    · rename_i taken others waiting
      rw [waiting] at nodup
      exact (List.nodup_cons.1 nodup).2
    · exact List.nodup_nil

theorem node?_put_of_some (keeps : storage.Keeps kept) (id : NodeId)
    (h : storage.node? handle = some other) : (storage.put id).node? handle = some other := by
  rw [keeps.node?_put, if_neg, h]
  rintro rfl
  rw [keeps.node?_fresh] at h
  cases h

theorem take (keeps : storage.Keeps kept) (id : NodeId) :
    (storage.take id).Keeps fun other => kept other ∧ other ≠ id := by
  refine ⟨?_, ?_, ?_, ?_⟩
  · intro other
    simp only [node?_take]
    constructor
    · rintro ⟨old, different⟩
      obtain ⟨handle, found⟩ := (keeps.kept_iff other).1 old
      refine ⟨handle, ?_⟩
      rw [if_neg, found]
      rintro rfl
      cases place : storage.placeOf? id with
      | none => simp [node?, Storage.handle, place] at found
      | some place' =>
        obtain ⟨turn, own, same⟩ := exists_node?_of_placeOf? place
        rw [same, node?_eq_some_iff.2 own] at found
        exact different (Option.some.inj found).symm
    · rintro ⟨handle, found⟩
      split at found
      · cases found
      · rename_i different
        refine ⟨(keeps.kept_iff other).2 ⟨handle, found⟩, ?_⟩
        rintro rfl
        exact different (keeps.handle_eq found).symm
  · intro other handle handle' found found'
    rw [node?_take] at found found'
    split at found <;> split at found'
    · cases found
    · cases found
    · cases found'
    · exact keeps.unique found found'
  · intro place member
    rw [Storage.take] at member ⊢
    cases h : storage.placeOf? id with
    | none =>
      rw [h] at member
      exact keeps.empty_places place member
    | some left =>
      rw [h] at member
      obtain ⟨turn, found, -⟩ := exists_node?_of_placeOf? h
      by_cases same : left = place
      · subst same
        exact ⟨turn + 1, by simp [Array.getElem?_modify, found]⟩
      · obtain rfl | member := List.mem_cons.1 member
        · exact absurd rfl same
        · obtain ⟨turn, found⟩ := keeps.empty_places place member
          exact ⟨turn, by simp [Array.getElem?_modify, same, found]⟩
  · rw [Storage.take]
    cases h : storage.placeOf? id with
    | none => exact keeps.empty_nodup
    | some left =>
      obtain ⟨turn, found, -⟩ := exists_node?_of_placeOf? h
      refine List.nodup_cons.2 ⟨?_, keeps.empty_nodup⟩
      intro member
      obtain ⟨turn', empty⟩ := keeps.empty_places left member
      simp [found] at empty

theorem node?_take_of_some (keeps : storage.Keeps kept) (different : other ≠ id)
    (h : storage.node? handle = some other) : (storage.take id).node? handle = some other := by
  have old : kept other := (keeps.kept_iff other).2 ⟨handle, h⟩
  obtain ⟨handle', found⟩ := ((keeps.take id).kept_iff other).1 ⟨old, different⟩
  have before := found
  rw [node?_take] at before
  split at before
  · cases before
  · rwa [keeps.unique h before]

theorem foldl_put (keeps : storage.Keeps kept) (ids : List NodeId) (nodup : ids.Nodup)
    (new : ∀ id ∈ ids, ¬ kept id) :
    (ids.foldl Storage.put storage).Keeps (fun other => kept other ∨ other ∈ ids) ∧
      ∀ handle other, storage.node? handle = some other →
        (ids.foldl Storage.put storage).node? handle = some other := by
  induction ids generalizing storage kept with
  | nil => exact ⟨keeps.congr (by simp), fun handle other h => h⟩
  | cons id ids ih =>
    obtain ⟨apart, nodup⟩ := List.nodup_cons.1 nodup
    have first := keeps.put (new id (by simp))
    obtain ⟨rest, stay⟩ := ih first nodup (by
      rintro other member (old | rfl)
      · exact new other (by simp [member]) old
      · exact apart member)
    refine ⟨rest.congr fun other => by simp [or_assoc], ?_⟩
    intro handle other h
    exact stay handle other (keeps.node?_put_of_some id h)

/-- The list of places holds the kept nodes, each once. -/
theorem mem_toList (keeps : storage.Keeps kept) (id : NodeId) :
    id ∈ storage.toList ↔ kept id := by
  rw [keeps.kept_iff, toList, List.mem_filterMap]
  constructor
  · rintro ⟨⟨node, turn⟩, member, rfl⟩
    obtain ⟨place, inside, found⟩ := List.getElem_of_mem member
    refine ⟨⟨place, turn⟩, node?_eq_some_iff.2 ?_⟩
    rw [← Array.getElem?_toList, List.getElem?_eq_getElem inside, found]
  · rintro ⟨handle, found⟩
    rw [node?_eq_some_iff, ← Array.getElem?_toList] at found
    exact ⟨_, List.mem_of_getElem? found, rfl⟩

theorem nodup_toList (keeps : storage.Keeps kept) : storage.toList.Nodup := by
  rw [toList, List.nodup_iff_pairwise_ne, List.pairwise_filterMap]
  refine List.pairwise_iff_getElem.2 ?_
  intro first second inside inside' before id found id' found' same
  subst same
  have handleOf : ∀ place (within : place < storage.places.toList.length),
      storage.places.toList[place].node = some id →
        storage.node? ⟨place, storage.places.toList[place].turn⟩ = some id := by
    intro place within node
    rw [node?_eq_some_iff, ← Array.getElem?_toList, List.getElem?_eq_getElem within, ← node]
  have same := congrArg Handle.place
    (keeps.unique (handleOf first inside found) (handleOf second inside' found'))
  exact absurd same (Nat.ne_of_lt before)

end Keeps

end Storage

namespace SceneGraph

variable {graph loaded result : SceneGraph} {id other : NodeId} {handle : Handle}
  {location : Location}

/-- The places of a scene keep its stored nodes. -/
def Kept (graph : SceneGraph) : Prop := graph.storage.Keeps graph.Stored

/-- A handle names the same node in another scene if it names one here. -/
def HandlesStay (graph result : SceneGraph) : Prop :=
  ∀ handle id, graph.nodeOf? handle = some id → result.nodeOf? handle = some id

theorem Kept.nodeOf?_handle (kept : graph.Kept) (stored : graph.Stored id) :
    graph.nodeOf? (graph.handle id) = some id :=
  kept.node?_handle_of_kept stored

theorem Kept.handle_eq (kept : graph.Kept) (h : graph.nodeOf? handle = some id) :
    graph.handle id = handle :=
  Storage.Keeps.handle_eq kept h

theorem Kept.stored_of_nodeOf? (kept : graph.Kept) (h : graph.nodeOf? handle = some id) :
    graph.Stored id :=
  (kept.kept_iff id).2 ⟨handle, h⟩

theorem Kept.handle_of_stay (kept : graph.Kept) (after : result.Kept)
    (stay : graph.HandlesStay result) (stored : graph.Stored id) :
    result.handle id = graph.handle id :=
  after.handle_eq (stay _ id (kept.nodeOf?_handle stored))

/-! ### Lists of stored nodes -/

theorem Kept.map_fst_stored (kept : graph.Kept) :
    graph.stored.map (·.1) = graph.storage.toList := by
  have all : ∀ id ∈ graph.storage.toList, graph.Stored id := fun id member =>
    (kept.mem_toList id).1 member
  rw [stored]
  generalize graph.storage.toList = ids at all
  induction ids with
  | nil => rfl
  | cons id ids ih =>
    obtain ⟨node, found⟩ := all id (by simp)
    simp [found, ih fun other member => all other (by simp [member])]

theorem Kept.mem_stored (kept : graph.Kept) {node : Node} :
    (id, node) ∈ graph.stored ↔ graph.get? id = some node := by
  simp only [stored, List.mem_filterMap, Option.map_eq_some_iff, Prod.mk.injEq]
  constructor
  · rintro ⟨other, -, node', found, rfl, rfl⟩
    exact found
  · intro found
    exact ⟨id, (kept.mem_toList id).2 ⟨node, found⟩, node, found, rfl, rfl⟩

theorem Kept.nodup_stored (kept : graph.Kept) : (graph.stored.map (·.1)).Nodup := by
  rw [kept.map_fst_stored]
  exact kept.nodup_toList

/-! ### Changes -/

theorem kept_empty : empty.Kept :=
  Storage.Keeps.nothing.congr fun id => by simp [Stored]

theorem Kept.insert (kept : graph.Kept) (node : Node) : (graph.insert node).Kept := by
  have new : ¬ graph.Stored graph.nextId := fun stored =>
    absurd stored.lt_size (Nat.lt_irrefl _)
  refine (kept.put new).congr fun other => ?_
  by_cases same : other = graph.nextId <;> simp [Stored, same]

theorem Kept.modify (kept : graph.Kept) (id : NodeId) (change : Node → Node) :
    (graph.modify id change).Kept :=
  kept.congr (stored_modify graph id change)

theorem Kept.remove (kept : graph.Kept) (id : NodeId) : (graph.remove id).Kept := by
  refine (kept.take id).congr fun other => ?_
  by_cases same : other = id <;> simp [Stored, same]

theorem Kept.adopt (kept : graph.Kept) (document : loaded.Kept) :
    (graph.adopt loaded).Kept ∧ graph.HandlesStay (graph.adopt loaded) := by
  have same : (graph.adopt loaded).storage =
      (loaded.storage.toList.map (·.shift graph.nodes.size)).foldl Storage.put graph.storage := by
    rw [← document.map_fst_stored, List.map_map, List.foldl_map]
    rfl
  have nodup : (loaded.storage.toList.map (·.shift graph.nodes.size)).Nodup :=
    document.nodup_toList.map fun id other => NodeId.shift_inj.1
  have new : ∀ id ∈ loaded.storage.toList.map (·.shift graph.nodes.size), ¬ graph.Stored id := by
    rintro id member stored
    obtain ⟨own, -, rfl⟩ := List.mem_map.1 member
    exact shift_ne_of_lt stored.lt_size own rfl
  obtain ⟨keeps, stay⟩ := kept.foldl_put _ nodup new
  rw [← same] at keeps stay
  refine ⟨keeps.congr fun other => ?_, stay⟩
  simp only [List.mem_map, document.mem_toList]
  obtain lower | ⟨own, rfl⟩ := lt_size_or_eq_shift graph.nodes.size other
  · have old : ∀ own : NodeId, own.shift graph.nodes.size ≠ other := fun own =>
      shift_ne_of_lt lower own
    simp [Stored, get?_adopt_of_lt lower, old]
  · have beyond : ¬ graph.Stored (own.shift graph.nodes.size) := fun stored =>
      shift_ne_of_lt stored.lt_size own rfl
    constructor
    · rintro ⟨node, found⟩
      rw [get?_adopt_shift] at found
      obtain ⟨node', found, -⟩ := Option.map_eq_some_iff.1 found
      exact .inr ⟨own, ⟨node', found⟩, rfl⟩
    · rintro (stored | ⟨own', ⟨node, found⟩, same⟩)
      · exact absurd stored beyond
      · obtain rfl := NodeId.shift_inj.1 same
        exact ⟨_, by rw [get?_adopt_shift, found]; rfl⟩

theorem Kept.setInlineStatus? {status : InlineStatus} (kept : graph.Kept)
    (h : graph.setInlineStatus? id status = some result) :
    result.Kept ∧ graph.HandlesStay result := by
  obtain ⟨inline, -, rfl⟩ := setInlineStatus?_eq_some h
  exact ⟨kept.modify id _, fun _ _ h => h⟩

/-- A spliced document gets handles that stood for no node; the frame that is
    dissolved was given one, which is gone again. -/
theorem Kept.splice? (kept : graph.Kept) (document : loaded.Kept)
    (h : graph.splice? id loaded location = some result) :
    result.Kept ∧ graph.HandlesStay result := by
  obtain ⟨adopted, stay⟩ := kept.adopt document
  obtain ⟨inline, -, rfl⟩ := Option.map_eq_some_iff.1 h
  cases isRoot : loaded.root with
  | none => exact ⟨adopted.modify id _, stay⟩
  | some root =>
    simp only [dissolveRoot_adopt graph isRoot]
    split
    · refine ⟨(adopted.remove _).modify id _, ?_⟩
      intro handle other found
      refine adopted.node?_take_of_some ?_ (stay handle other found)
      exact (shift_ne_of_lt (kept.stored_of_nodeOf? found).lt_size root).symm
    · exact ⟨adopted.modify id _, stay⟩

/-! ### Regular scenes -/

/-- What holds of every scene, however it has been changed. -/
structure Regular (graph : SceneGraph) : Prop where
  wellFormed : graph.WellFormed
  kept : graph.Kept

theorem regular_empty : empty.Regular := ⟨wellFormed_empty, kept_empty⟩

theorem Regular.setBase (regular : graph.Regular) (base : Option Location) :
    { graph with base }.Regular :=
  ⟨regular.wellFormed.setBase base, regular.kept⟩

theorem Regular.setInlineStatus? {status : InlineStatus} (regular : graph.Regular)
    (h : graph.setInlineStatus? id status = some result) : result.Regular :=
  ⟨regular.wellFormed.setInlineStatus? h, (regular.kept.setInlineStatus? h).1⟩

theorem Regular.splice? (regular : graph.Regular) (document : loaded.Regular)
    (h : graph.splice? id loaded location = some result) : result.Regular :=
  ⟨regular.wellFormed.splice? document.wellFormed h, (regular.kept.splice? document.kept h).1⟩

end SceneGraph

namespace Document

theorem kept_of_parse? {text : String} {graph : SceneGraph} {stats : Stats}
    (h : parse? text = some (graph, stats)) : graph.Kept := by
  obtain ⟨form, root, -, -, rfl, -⟩ := parse?_eq_some h
  have steps : Assembly.Steps (fun _ => True) {} (Assembly.add {} form).2 :=
    Assembly.add_steps form.only_true Assembly.Orderly.empty
  refine steps.invariant (P := (·.graph.Kept)) ?_ SceneGraph.kept_empty
  intro before after step kept
  cases step with
  | store => exact kept.insert _
  | giveName name stored => exact kept.modify _ _
  | countUnresolved => exact kept

end Document

end VrmlWorld
