/-
  VrmlWorld/Proofs/Render/Inlining.lean
  =====================================
  **A document looks the same in the place of an inline.**

  Splicing gives the nodes of a document new identities, dissolves a root that is
  a group, and leaves the document's own place to the inline. None of this is seen
  when the document is drawn: what a walk adds to a frame at the inline is what it
  adds at the document's root, under the new identities.

  Two walks go along, one through the document and one through the scene. Their
  passes mirror each other (`Pass.Mirrors`): caches and lists are keyed by
  identities, so they are compared at a node and at its new name.
-/
import VrmlWorld.Proofs.Render.Memory
import VrmlWorld.Proofs.Render.Requests
import VrmlWorld.Proofs.Scene.Embedding
import VrmlWorld.Proofs.Scene.Updates

namespace VrmlWorld

open Document VrmlWorld.Geometry

/-! ### Frames under other names -/

def Draw.rename (f : NodeId → NodeId) (draw : Draw) : Draw := { draw with node := f draw.node }

def InlineRequest.rename (f : NodeId → NodeId) (request : InlineRequest) : InlineRequest :=
  { request with node := f request.node }

namespace Frame

def rename (f : NodeId → NodeId) (frame : Frame) : Frame :=
  { frame with
    draws := frame.draws.map (·.rename f)
    pending := frame.pending.map (·.rename f)
    unresolved := frame.unresolved.map f }

/-- A frame with what a walk adds to it. -/
def append (frame more : Frame) : Frame :=
  { frame with
    draws := frame.draws ++ more.draws
    pending := frame.pending ++ more.pending
    unresolved := frame.unresolved ++ more.unresolved }

/-- Two frames that list the same inlines, and that have grown alike since they
    were `before` and `before'`. -/
structure Mirrors (f : NodeId → NodeId) (known : NodeId → Prop) (before before' own shown : Frame) :
    Prop where
  listed : ∀ id, known id → (f id ∈ shown.listed ↔ id ∈ own.listed)
  grown : ∃ emitted, own = before.append emitted ∧ shown = before'.append (emitted.rename f)

namespace Mirrors

variable {f : NodeId → NodeId} {known : NodeId → Prop} {before before' own shown : Frame}
  {node : NodeId}

theorem start (listed : ∀ id, known id → (f id ∈ before'.listed ↔ id ∈ before.listed)) :
    Mirrors f known before before' before before' where
  listed := listed
  grown := ⟨{}, by simp [append], by simp [append, rename]⟩

theorem push (mirrors : Mirrors f known before before' own shown) (draw : Draw) :
    Mirrors f known before before' { own with draws := own.draws.push draw }
      { shown with draws := shown.draws.push (draw.rename f) } := by
  obtain ⟨emitted, rfl, rfl⟩ := mirrors.grown
  refine ⟨mirrors.listed, { emitted with draws := emitted.draws.push draw }, ?_, ?_⟩
  · simp [append]
  · simp [append, rename]

/-- An inline is new to one frame exactly when it is new to the other. -/
theorem request (mirrors : Mirrors f known before before' own shown)
    (injective : Function.Injective f) (isKnown : known node) (url : String)
    (base : Option Location) :
    Mirrors f known before before' (own.request node url base)
      (shown.request (f node) url base) := by
  by_cases member : node ∈ own.listed
  · rw [request_of_mem member, request_of_mem ((mirrors.listed node isKnown).2 member)]
    exact mirrors
  · have absent : f node ∉ shown.listed := mt (mirrors.listed node isKnown).1 member
    have listed : ∀ id, known id → (f id ∈ (shown.request (f node) url base).listed ↔
        id ∈ (own.request node url base).listed) := by
      intro id known_id
      rw [(listed_request_of_not_mem absent url base).mem_iff,
        (listed_request_of_not_mem member url base).mem_iff, List.mem_cons, List.mem_cons,
        injective.eq_iff, mirrors.listed id known_id]
    refine ⟨listed, ?_⟩
    obtain ⟨emitted, rfl, rfl⟩ := mirrors.grown
    rw [request_of_not_mem member, request_of_not_mem absent]
    cases Location.resolve base url with
    | ok location =>
      refine ⟨{ emitted with pending := emitted.pending.push ⟨node, location⟩ }, ?_, ?_⟩
      · simp [append]
      · simp [append, rename, InlineRequest.rename]
    | error error =>
      refine ⟨{ emitted with unresolved := emitted.unresolved.push node }, ?_, ?_⟩
      · simp [append]
      · simp [append, rename]

end Mirrors

end Frame

/-! ### Walks under other names -/

namespace Pass

variable {σ : Type}

/-- Two passes with the same textures and the same host, that hold the same for
    each known node under its two names, and whose frames have grown alike. -/
structure Mirrors (f : NodeId → NodeId) (known : NodeId → Prop) (before before' : Frame)
    (own shown : Pass σ) : Prop where
  textures : shown.caches.textures = own.caches.textures
  host : shown.host = own.host
  meshes : ∀ id, known id → shown.caches.meshes.get? (f id) = own.caches.meshes.get? id
  texts : ∀ id, known id → shown.caches.texts[f id]? = own.caches.texts[id]?
  frame : Frame.Mirrors f known before before' own.frame shown.frame

namespace Mirrors

variable {f : NodeId → NodeId} {known : NodeId → Prop} {before before' : Frame}
  {own shown : Pass σ} {node : NodeId}

theorem draw (mirrors : Mirrors f known before before' own shown) (view : View)
    (properties : Properties) (node : NodeId) (mesh : Mesh) (texture : Option BoundTexture)
    (unlit : Bool) :
    Mirrors f known before before' (own.draw view properties node mesh texture unlit)
      (shown.draw view properties (f node) mesh texture unlit) :=
  { mirrors with frame := mirrors.frame.push (view.draw properties node mesh texture unlit) }

theorem mesh (mirrors : Mirrors f known before before' own shown)
    (injective : Function.Injective f) (isKnown : known node) (build : Unit → Option Mesh) :
    (own.mesh node build).1 = (shown.mesh (f node) build).1 ∧
      Mirrors f known before before' (own.mesh node build).2 (shown.mesh (f node) build).2 := by
  refine ⟨?_, { mirrors with meshes := ?_ }⟩
  · rw [mesh_fst, mesh_fst, mirrors.meshes node isKnown]
  · intro id known_id
    simp only [Pass.mesh, MeshCache.get?_getOrBuild, mirrors.meshes id known_id, injective.eq_iff]

theorem bitmap (mirrors : Mirrors f known before before' own shown)
    (injective : Function.Injective f) (isKnown : known node) (host : Host σ)
    (properties : Properties) (text : AsciiText) :
    (own.bitmap host properties node text).1 = (shown.bitmap host properties (f node) text).1 ∧
      Mirrors f known before before' (own.bitmap host properties node text).2
        (shown.bitmap host properties (f node) text).2 := by
  have same : (own.bitmap host properties node text).1 =
      (shown.bitmap host properties (f node) text).1 := by
    rw [Pass.bitmap, Pass.bitmap, mirrors.texts node isKnown, mirrors.host]
    cases own.caches.texts[node]? <;> rfl
  have texts : ∀ id, known id →
      (shown.bitmap host properties (f node) text).2.caches.texts[f id]? =
        (own.bitmap host properties node text).2.caches.texts[id]? := by
    intro id known_id
    simp only [texts_bitmap, mirrors.texts id known_id, same, injective.eq_iff]
  refine ⟨same, ?_⟩
  revert texts
  rw [Pass.bitmap, Pass.bitmap, mirrors.texts node isKnown, mirrors.host]
  intro texts
  cases kept : own.caches.texts[node]? with
  | some bitmap => exact mirrors
  | none =>
    rw [kept] at texts
    exact { mirrors with host := rfl, texts }

theorem drawShape (mirrors : Mirrors f known before before' own shown)
    (injective : Function.Injective f) (isKnown : known node) (view : View)
    (properties : Properties) (kind : NodeKind) :
    Mirrors f known before before' (own.drawShape view properties node kind)
      (shown.drawShape view properties (f node) kind) := by
  obtain ⟨sameMesh, behind⟩ := mirrors.mesh injective isKnown
    fun _ => tessellate? kind (properties.context view.segments)
  rw [Pass.drawShape, Pass.drawShape]
  generalize own.mesh node _ = answer at sameMesh behind
  generalize shown.mesh (f node) _ = answer' at sameMesh behind
  obtain ⟨mesh, between⟩ := answer
  obtain ⟨mesh', between'⟩ := answer'
  obtain rfl : mesh = mesh' := sameMesh
  cases mesh with
  | none => exact behind
  | some mesh => exact behind.draw ..

theorem drawText (mirrors : Mirrors f known before before' own shown)
    (injective : Function.Injective f) (isKnown : known node) (host : Host σ) (view : View)
    (properties : Properties) (text : AsciiText) :
    Mirrors f known before before' (own.drawText host view properties node text)
      (shown.drawText host view properties (f node) text) := by
  obtain ⟨sameBitmap, behind⟩ := mirrors.bitmap injective isKnown host properties text
  rw [Pass.drawText, Pass.drawText]
  generalize own.bitmap host properties node text = answer at sameBitmap behind
  generalize shown.bitmap host properties (f node) text = answer' at sameBitmap behind
  obtain ⟨bitmap, between⟩ := answer
  obtain ⟨bitmap', between'⟩ := answer'
  obtain rfl : bitmap = bitmap' := sameBitmap
  cases bitmap with
  | none => exact behind
  | some bitmap =>
    obtain ⟨sameMesh, behind⟩ := Mirrors.mesh behind injective isKnown fun _ =>
      Tessellation.textQuad? properties.font text.justification text.spacing
        text.strings.length bitmap.aspect
    dsimp only
    generalize between.mesh node _ = answer at sameMesh behind
    generalize between'.mesh (f node) _ = answer' at sameMesh behind
    obtain ⟨mesh, further⟩ := answer
    obtain ⟨mesh', further'⟩ := answer'
    obtain rfl : mesh = mesh' := sameMesh
    cases mesh with
    | none => exact behind
    | some mesh => exact behind.draw ..

theorem shut (mirrors : Mirrors f known before before' own shown)
    (injective : Function.Injective f) (isKnown : known node) (properties : Properties)
    (kind : NodeKind) :
    Mirrors f known before before' (own.shut properties node kind)
      (shown.shut properties (f node) kind) := by
  cases kind with
  | inline inline =>
    rw [Pass.shut, Pass.shut]
    split
    · exact { mirrors with
        frame := mirrors.frame.request injective isKnown inline.url properties.base }
    · exact mirrors
  | _ => exact mirrors

theorem meet (mirrors : Mirrors f known before before' own shown)
    (injective : Function.Injective f) (isKnown : known node) (host : Host σ) (view : View)
    (properties : Properties) (kind : NodeKind) :
    (own.meet host view properties node kind).1 =
        (shown.meet host view properties (f node) kind).1 ∧
      Mirrors f known before before' (own.meet host view properties node kind).2
        (shown.meet host view properties (f node) kind).2 := by
  cases kind with
  | texture2 texture =>
    rw [Pass.meet, Pass.meet, mirrors.textures, mirrors.host]
    exact ⟨rfl, { mirrors with textures := rfl, host := rfl }⟩
  | asciiText text => exact ⟨rfl, mirrors.drawText injective isKnown host view properties text⟩
  | cube | sphere | cone | cylinder | indexedFaceSet | indexedLineSet | pointSet =>
    exact ⟨rfl, mirrors.drawShape injective isKnown view properties _⟩
  | _ => exact ⟨rfl, mirrors⟩

/-- Two walks through a list that go along at each member do so on the whole way. -/
theorem foldl {ι : Type} (go go' : ι → Properties × Pass σ → Properties × Pass σ)
    (members : List ι)
    (step : ∀ member ∈ members, ∀ properties (own shown : Pass σ),
      Mirrors f known before before' own shown →
      (go member (properties, own)).1 = (go' member (properties, shown)).1 ∧
        Mirrors f known before before' (go member (properties, own)).2
          (go' member (properties, shown)).2)
    (properties : Properties) (mirrors : Mirrors f known before before' own shown) :
    let left := members.foldl (fun state member => go member state) (properties, own)
    let left' := members.foldl (fun state member => go' member state) (properties, shown)
    left.1 = left'.1 ∧ Mirrors f known before before' left.2 left'.2 := by
  induction members generalizing properties own shown with
  | nil => exact ⟨rfl, mirrors⟩
  | cons member members ih =>
    obtain ⟨first, others⟩ := List.forall_mem_cons.1 step
    obtain ⟨same, behind⟩ := first properties own shown mirrors
    rw [List.foldl_cons, List.foldl_cons]
    generalize go member (properties, own) = left at same behind
    generalize go' member (properties, shown) = left' at same behind
    obtain ⟨inner, own⟩ := left
    obtain ⟨inner', shown⟩ := left'
    obtain rfl : inner = inner' := same
    exact ih others inner behind

/-- The walks through a tree and through the renamed tree go along, whatever else
    the second one has met before. -/
theorem visit (injective : Function.Injective f) (host : Host σ) (view : View)
    {occurrence : Occurrence} (all : occurrence.All known) (properties : Properties)
    (mirrors : Mirrors f known before before' own shown) :
    (occurrence.visit host view (properties, own)).1 =
        ((occurrence.rename f).visit host view (properties, shown)).1 ∧
      Mirrors f known before before' (occurrence.visit host view (properties, own)).2
        ((occurrence.rename f).visit host view (properties, shown)).2 := by
  induction occurrence generalizing properties own shown with
  | absent id => exact ⟨rfl, mirrors⟩
  | node id kind arity child ih =>
    obtain ⟨isKnown, below⟩ := all
    cases group : kind.isGroup with
    | false =>
      simp only [Occurrence.rename, Occurrence.visit, group, Bool.false_eq_true, if_false]
      exact mirrors.meet injective isKnown host view properties kind
    | true =>
      simp only [Occurrence.rename, Occurrence.visit, group, if_true]
      cases properties.entering? kind with
      | none => exact ⟨rfl, mirrors.shut injective isKnown properties kind⟩
      | some inner =>
        obtain ⟨same, behind⟩ := mirrors.foldl
          (fun position state => (child position).visit host view state)
          (fun position state => ((child position).rename f).visit host view state)
          (Occurrence.shown kind arity properties.transform view.viewer)
          (fun position _ properties _ _ mirrors => ih position (below position) properties mirrors)
          inner
        dsimp only
        exact ⟨by rw [same], behind⟩

end Mirrors

end Pass

/-! ### Documents in the place of inlines -/

namespace SceneGraph

variable {σ : Type} {graph loaded result : SceneGraph} {id root : NodeId} {inline : Inline}
  {location : Location} {node : Node}

/-- A walk that comes to a filled inline goes through the contents of the document,
    in the document's place, and comes out with what it came in with. -/
theorem Spliced.visit_inline (spliced : graph.Spliced id inline loaded location result)
    (document : loaded.WellFormed) (stored : graph.Stored id) (host : Host σ) (view : View)
    (depth : Nat) (properties : Properties) (pass : Pass σ) :
    (result.unfold (depth + 1) id).visit host view (properties, pass) =
      (properties,
        (loaded.contents.foldl
          (fun state own =>
            ((loaded.unfold depth own).rename (·.shift graph.nodes.size)).visit host view state)
          ({ properties with base := some location }, pass)).2) := by
  obtain ⟨node, found⟩ := stored
  rw [Occurrence.visit_unfold_group (spliced.get?_filled found) rfl (properties, pass) rfl rfl,
    active, if_pos rfl, List.foldl_map]
  have same : ∀ (state : Properties × Pass σ), ∀ own ∈ loaded.contents,
      (result.unfold depth (own.shift graph.nodes.size)).visit host view state =
        ((loaded.unfold depth own).rename (·.shift graph.nodes.size)).visit host view state := by
    intro state own member
    rw [(spliced.embeds document).unfold_eq (document.stored_of_mem_contents member)]
  rw [List.foldl_ext _ _ _ same]
  rfl

/-- By itself a document whose root is a plain group or no group adds what its
    contents add: a plain group shows all its children, with the properties that it
    is met with. -/
theorem WellFormed.exists_walk_of_contents (document : loaded.WellFormed)
    (isRoot : loaded.root = some root) (found : loaded.get? root = some node)
    (plain : node.kind.isGroup = false ∨ ∃ grouping, node.kind = .group grouping)
    (host : Host σ) (view : View) :
    ∃ depth alone, loaded.Unfolds root alone ∧
      (∀ own ∈ loaded.contents, loaded.descent own < depth) ∧
      ∀ state, (alone.visit host view state).2 =
        (loaded.contents.foldl
          (fun state own => (loaded.unfold depth own).visit host view state) state).2 := by
  have deep : loaded.descent root < loaded.nodes.size + 1 :=
    (document.descent_lt_size ⟨node, found⟩).trans (Nat.lt_succ_self _)
  have complete := document.unfold_complete ⟨node, found⟩ deep
  rcases plain with single | ⟨grouping, isPlain⟩
  · have contents : loaded.contents = [root] := by simp [contents, isRoot, found, single]
    refine ⟨loaded.nodes.size + 1, _, complete, ?_, fun state => ?_⟩
    · intro own member
      rw [contents, List.mem_singleton] at member
      exact member ▸ deep
    · rw [contents]
      rfl
  · have group : node.kind.isGroup = true := by
      rw [isPlain]
      rfl
    have contents : loaded.contents = node.children := by simp [contents, isRoot, found, group]
    refine ⟨loaded.nodes.size, _, complete, ?_, fun state => ?_⟩
    · intro own member
      exact document.descent_lt_size (document.stored_of_mem_contents member).1
    · have entering : state.1.entering? node.kind = some state.1 := by
        rw [isPlain]
        rfl
      have all : active node.kind node.children state.1.transform view.viewer = node.children := by
        rw [isPlain]
        rfl
      rw [Occurrence.visit_unfold_group found group state entering all, contents]

end SceneGraph

/-- Nothing has been made for some nodes. -/
def Caches.Unmade (caches : Caches) (P : NodeId → Prop) : Prop :=
  ∀ id, P id → caches.meshes.get? id = none ∧ caches.texts[id]? = none

namespace SceneGraph

/-- A document whose root is a plain group or no group at all adds to a frame, in the
    place of an inline, what it adds by itself; and behind the inline the walk goes on
    as before. The nodes have not been drawn before under either name, and the two
    frames list the same of them. -/
theorem inline_shows_document {σ : Type} {graph loaded : SceneGraph} {id root : NodeId}
    {inline : Inline} {text : String} {stats : Stats} {top : Node}
    (isInline : graph.inline? id = some inline) (read : parse? text = some (loaded, stats))
    (isRoot : loaded.root = some root) (found : loaded.get? root = some top)
    (plain : top.kind.isGroup = false ∨ ∃ grouping, top.kind = .group grouping)
    (base : Option Location) (location : Location) (host : Host σ) (view : View)
    (properties : Properties) (own shown : Pass σ)
    (textures : shown.caches.textures = own.caches.textures) (sameHost : shown.host = own.host)
    (unmade : own.caches.Unmade loaded.Stored)
    (unmade' : shown.caches.Unmade fun new =>
      ∃ old, loaded.Stored old ∧ new = old.shift graph.nodes.size)
    (listed : ∀ old, loaded.Stored old →
      (old.shift graph.nodes.size ∈ shown.frame.listed ↔ old ∈ own.frame.listed)) :
    ∃ result inPlace alone emitted,
      graph.splice? id { loaded with base } location = some result ∧
      result.Unfolds id inPlace ∧ loaded.Unfolds root alone ∧
      let behind := inPlace.visit host view (properties, shown)
      let behind' := alone.visit host view ({ properties with base := some location }, own)
      behind.1 = properties ∧
      behind'.2.frame = own.frame.append emitted ∧
      behind.2.frame = shown.frame.append (emitted.rename (·.shift graph.nodes.size)) ∧
      behind.2.host = behind'.2.host ∧
      behind.2.caches.textures = behind'.2.caches.textures := by
  let document : SceneGraph := { loaded with base }
  have wellFormed : document.WellFormed := (wellFormed_of_parse? read).1.setBase base
  obtain ⟨node, inPlace, -⟩ := inline?_eq_some_iff.1 isInline
  obtain ⟨result, splice⟩ : ∃ result, graph.splice? id document location = some result := by
    rw [splice?, isInline]
    exact ⟨_, rfl⟩
  obtain ⟨_, -, spliced⟩ := splice?_eq_some splice
  have embeds := spliced.embeds wellFormed
  have injective : Function.Injective (NodeId.shift graph.nodes.size) :=
    fun _ _ => NodeId.shift_inj.1
  have mirrors : own.Mirrors (·.shift graph.nodes.size)
      (fun id => document.Stored id ∧ document.frame? ≠ some id) own.frame shown.frame shown := by
    refine ⟨textures, sameHost, ?_, ?_, .start fun id known => listed id known.1⟩
    · intro id known
      rw [(unmade id known.1).1, (unmade' _ ⟨id, known.1, rfl⟩).1]
    · intro id known
      rw [(unmade id known.1).2, (unmade' _ ⟨id, known.1, rfl⟩).2]
  obtain ⟨depth, alone, complete, deep, walk⟩ :=
    wellFormed.exists_walk_of_contents isRoot found plain host view
  have all : ∀ own ∈ document.contents, (document.unfold depth own).All
      fun id => document.Stored id ∧ document.frame? ≠ some id :=
    fun own member => embeds.all_unfold (wellFormed.stored_of_mem_contents member) depth
  obtain ⟨-, behind⟩ := mirrors.foldl
    (fun own state => (document.unfold depth own).visit host view state)
    (fun own state =>
      ((document.unfold depth own).rename (·.shift graph.nodes.size)).visit host view state)
    document.contents
    (fun own member properties _ _ mirrors =>
      mirrors.visit injective host view (all own member) properties)
    { properties with base := some location }
  obtain ⟨emitted, grown, grown'⟩ := behind.frame.grown
  have atInline := spliced.visit_inline wellFormed ⟨node, inPlace⟩ host view depth properties shown
  refine ⟨result, result.unfold (depth + 1) id, alone, emitted, splice,
    spliced.unfolds_inline wellFormed ⟨node, inPlace⟩ deep, complete.congr loaded fun _ => rfl,
    ?_⟩
  dsimp only
  rw [atInline, walk]
  exact ⟨rfl, grown, grown', behind.host, behind.textures⟩

/-- A group with an inline in it. -/
def inlineInGroup : SceneGraph :=
  { (empty.insert { kind := .inline { url := "b" } }).insert
      { kind := .group .group, children := [⟨0⟩] } with root := some ⟨1⟩ }

theorem parse?_inlineInGroup :
    parse? "Group{WWWInline{name b}}" = some (inlineInGroup, ⟨2, 0, 0⟩) := by
  decide +kernel

/-- The inline of the document is asked for under its new identity, and from the
    place of the document. -/
theorem inline_asks_beside_its_document :
    let host : Host Unit :=
      { loadTexture := fun _ state => (.error .noRootNode, state)
        rasterize := fun _ state => (none, state) }
    let view := (Renderer.ofSettings {}).view [] (.ofSettings {}) 1
    let graph := empty.insert { kind := .inline {} }
    parse? "Group{WWWInline{name b}}" = some (inlineInGroup, ⟨2, 0, 0⟩) ∧
    graph.inline? ⟨0⟩ = some {} ∧
    inlineInGroup.kind? ⟨1⟩ = some (.group .group) ∧
    ∃ result inPlace,
      graph.splice? ⟨0⟩ inlineInGroup (.path "parts/ball.wrl") = some result ∧
      result.Unfolds ⟨0⟩ inPlace ∧
      (inPlace.visit host view ({}, { caches := {}, host := () })).1 = {} ∧
      (inPlace.visit host view ({}, { caches := {}, host := () })).2.frame.pending =
        #[⟨⟨1⟩, .path "parts/b"⟩] := by
  intro host view graph
  have isInline : graph.inline? ⟨0⟩ = some {} := rfl
  have isRoot : inlineInGroup.root = some ⟨1⟩ := rfl
  have unmade (P : NodeId → Prop) : ({} : Caches).Unmade P := by
    intro id _
    simp [MeshCache.get?]
  obtain ⟨result, inPlace, alone, emitted, spliced, unfolds, unfoldsAlone, same, grown,
      grown', -⟩ :=
    inline_shows_document isInline parse?_inlineInGroup isRoot rfl (.inr ⟨.group, rfl⟩)
      none (.path "parts/ball.wrl") host view {} { caches := {}, host := () }
      { caches := {}, host := () } rfl rfl (unmade _) (unmade _)
      fun old _ => by simp [Frame.listed]
  refine ⟨parse?_inlineInGroup, isInline, rfl, result, inPlace, spliced, unfolds, same, ?_⟩
  obtain ⟨tree, isTree, unfoldsTree⟩ :=
    (wellFormed_of_parse? parse?_inlineInGroup).1.unfolding_complete isRoot
  cases isTree
  rw [unfoldsAlone.unique unfoldsTree] at grown
  have listed : emitted.pending = #[⟨⟨0⟩, .path "parts/b"⟩] := by
    have asked := congrArg (·.pending) grown
    simp only [Frame.append, Array.empty_append] at asked
    rw [← asked]
    decide +kernel
  rw [grown']
  simp only [Frame.append, Frame.rename, listed]
  decide +kernel

end SceneGraph

end VrmlWorld
