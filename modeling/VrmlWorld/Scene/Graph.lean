/-
  VrmlWorld/Scene/Graph.lean
  ==========================
  **Stored scenes.**

  A scene keeps every node once, under an identifier that is never given out
  again. A node that a file uses in several places stands in several lists of
  children. Beside the identifiers there are places of storage: a new node takes
  the place left last, or a fresh one, and a search by name goes through the
  places in order.

  Hosts hear of nodes by handles, which they may keep longer than the scene. A
  handle says at which place a node is kept, and how many nodes were kept there
  before it. Within a scene no handle is given out twice, but another scene
  begins anew with its places, and one of its nodes may have the same handle.

  The only change of a scene after it has been read is that the document behind
  an inline is spliced in (`SceneGraph.splice?`). The nodes of the document keep
  their kinds, names and children under new identifiers, which are their own
  identifiers moved past all those of the scene.
-/
import VrmlWorld.Scene.Node

namespace VrmlWorld

/-! ### Nodes -/

structure NodeId where
  index : Nat
deriving DecidableEq, Hashable, Repr

/-- The identity moved past `offset` others. -/
def NodeId.shift (offset : Nat) (id : NodeId) : NodeId := ⟨offset + id.index⟩

/-- A stored node. Only grouping nodes have children. -/
structure Node where
  /-- The name given through `DEF`. -/
  name : Option String := none
  kind : NodeKind
  children : List NodeId := []
deriving DecidableEq, Repr

/-- The same node among identities moved past `offset` others. -/
def Node.shift (offset : Nat) (node : Node) : Node :=
  { node with children := node.children.map (·.shift offset) }

/-! ### Places of storage -/

/-- What a host calls a node: its place, and its turn at that place. -/
structure Handle where
  place : Nat
  turn : Nat
deriving DecidableEq, Hashable, Repr

/-- A place of storage: the node that is kept there, and how many nodes have
    left the place. -/
structure Place where
  node : Option NodeId := none
  turn : Nat := 0
deriving DecidableEq, Inhabited, Repr

/-- Which node is kept at which place; the places left empty come back in use
    from the one left last. -/
structure Storage where
  places : Array Place := #[]
  empty : List Nat := []
deriving DecidableEq, Repr

namespace Storage

/-- Gives a node the place left last, or a fresh one. -/
def put (storage : Storage) (id : NodeId) : Storage :=
  match storage.empty with
  | place :: others => ⟨storage.places.modify place ({ · with node := some id }), others⟩
  | [] => ⟨storage.places.push { node := some id }, []⟩

def placeOf? (storage : Storage) (id : NodeId) : Option Nat :=
  storage.places.findIdx? (·.node == some id)

def take (storage : Storage) (id : NodeId) : Storage :=
  match storage.placeOf? id with
  | some place =>
      ⟨storage.places.modify place fun old => { node := none, turn := old.turn + 1 },
        place :: storage.empty⟩
  | none => storage

def toList (storage : Storage) : List NodeId := storage.places.toList.filterMap (·.node)

/-- The handle of a node; a node that is not kept has one beyond all places. -/
def handle (storage : Storage) (id : NodeId) : Handle :=
  match storage.placeOf? id with
  | some place => ⟨place, ((storage.places[place]?).map (·.turn)).getD 0⟩
  | none => ⟨storage.places.size, 0⟩

/-- The node that a handle stands for, if it is still kept. -/
def node? (storage : Storage) (handle : Handle) : Option NodeId :=
  (storage.places[handle.place]?).bind fun place =>
    if place.turn = handle.turn then place.node else none

end Storage

/-! ### Scenes -/

structure SceneGraph where
  /-- The node of each identity ever given out; a removed one has left a gap. -/
  nodes : Array (Option Node) := #[]
  storage : Storage := {}
  root : Option NodeId := none
  /-- Where the document came from. -/
  base : Option Location := none
deriving DecidableEq, Repr

namespace SceneGraph

/-- The scene without nodes. -/
def empty : SceneGraph := {}

/-- The identity that the next new node receives; it names no node yet. -/
def nextId (graph : SceneGraph) : NodeId := ⟨graph.nodes.size⟩

def get? (graph : SceneGraph) (id : NodeId) : Option Node := (graph.nodes[id.index]?).join

def kind? (graph : SceneGraph) (id : NodeId) : Option NodeKind := (graph.get? id).map (·.kind)

/-- The children of a node; none for what is not a stored group. -/
def children (graph : SceneGraph) (id : NodeId) : List NodeId :=
  ((graph.get? id).map (·.children)).getD []

def size (graph : SceneGraph) : Nat := graph.nodes.toList.countP Option.isSome

def handle (graph : SceneGraph) (id : NodeId) : Handle := graph.storage.handle id

def nodeOf? (graph : SceneGraph) (handle : Handle) : Option NodeId := graph.storage.node? handle

def stored (graph : SceneGraph) : List (NodeId × Node) :=
  graph.storage.toList.filterMap fun id => (graph.get? id).map fun node => (id, node)

/-- The first stored node of a name. -/
def findNamed (graph : SceneGraph) (name : String) : Option NodeId :=
  (graph.stored.find? fun (_, node) => node.name == some name).map (·.1)

def insert (graph : SceneGraph) (node : Node) : SceneGraph :=
  { graph with
    nodes := graph.nodes.push (some node)
    storage := graph.storage.put graph.nextId }

/-- Changes the node of an identity, if there is one. -/
def modify (graph : SceneGraph) (id : NodeId) (change : Node → Node) : SceneGraph :=
  { graph with nodes := graph.nodes.modify id.index (·.map change) }

def remove (graph : SceneGraph) (id : NodeId) : SceneGraph :=
  { graph with
    nodes := graph.nodes.setIfInBounds id.index none
    storage := graph.storage.take id }

/-! ### Inlines -/

/-- The inline of an identity, if its node is one. -/
def inline? (graph : SceneGraph) (id : NodeId) : Option Inline :=
  match graph.kind? id with
  | some (.inline inline) => some inline
  | _ => none

/-- Records how far an inline has come; only an inline can be changed so. -/
def setInlineStatus? (graph : SceneGraph) (id : NodeId) (status : InlineStatus) :
    Option SceneGraph :=
  (graph.inline? id).map fun inline =>
    graph.modify id fun node => { node with kind := .inline { inline with status } }

/-- The scene with the nodes of another one beside its own, under identities
    moved past all of its own. -/
def adopt (graph loaded : SceneGraph) : SceneGraph :=
  let offset := graph.nodes.size
  { graph with
    nodes := graph.nodes ++ loaded.nodes.map (·.map (·.shift offset))
    storage := loaded.stored.foldl (fun storage (id, _) => storage.put (id.shift offset))
      graph.storage }

/-- What a loaded document shows in the place of an inline, and the scene
    without a root that is only a frame for its children. -/
def dissolveRoot (graph : SceneGraph) (root : NodeId) : SceneGraph × List NodeId :=
  match graph.get? root with
  | some node => if node.kind.isGroup then (graph.remove root, node.children) else (graph, [root])
  | none => (graph, [])

/-- Makes a loaded document the content of an inline. The children of a root
    that is a group become the children of the inline, another root becomes its
    only child, and a document without a root leaves it empty. Only an inline
    can be filled so. -/
def splice? (graph : SceneGraph) (id : NodeId) (loaded : SceneGraph) (location : Location) :
    Option SceneGraph :=
  (graph.inline? id).map fun inline =>
    let adopted := graph.adopt loaded
    let (published, children) := match loaded.root with
      | some root => adopted.dissolveRoot (root.shift graph.nodes.size)
      | none => (adopted, [])
    published.modify id fun node =>
      { node with
        kind := .inline { inline with status := .loaded, location := some location }
        children }

end SceneGraph

end VrmlWorld
