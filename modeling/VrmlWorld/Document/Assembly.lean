/-
  VrmlWorld/Document/Assembly.lean
  ================================
  **From forms to a stored scene.**

  Forms are stored in the order in which they are complete: the children of a
  node before the node itself. A name stands for the node behind it from the
  moment that node is complete, so a node cannot be used inside itself, and a
  name that is given again stands for the later node from then on. A `USE` of a
  name without a node is left out and counted.
-/
import Std.Data.HashMap
import VrmlWorld.Document.Lexer
import VrmlWorld.Document.Reader
import VrmlWorld.Scene.Graph

namespace VrmlWorld.Document

structure Stats where
  /-- Nodes stored, placeholders among them. -/
  nodes : Nat := 0
  /-- Placeholders for nodes of unknown types. -/
  unknownNodes : Nat := 0
  /-- Uses of names that stand for no node. -/
  unresolvedUses : Nat := 0
deriving DecidableEq, Repr

structure Assembly where
  graph : SceneGraph := {}
  /-- The node that each name stands for so far. -/
  names : Std.HashMap String NodeId := {}
  stats : Stats := {}

namespace Assembly

def store (assembly : Assembly) (kind : NodeKind) (children : List NodeId) : Assembly :=
  { assembly with
    graph := assembly.graph.insert { kind, children }
    stats :=
      { assembly.stats with
        nodes := assembly.stats.nodes + 1
        unknownNodes := assembly.stats.unknownNodes +
          (match kind with
            | .unknown _ => 1
            | _ => 0) } }

/-- Lets a name stand for a complete node, which takes it as its own. -/
def giveName (assembly : Assembly) (name : String) (id : NodeId) : Assembly :=
  { assembly with
    graph := assembly.graph.modify id fun node => { node with name := some name }
    names := assembly.names.insert name id }

/-- Counts a use of a name that stands for no node. -/
def countUnresolved (assembly : Assembly) : Assembly :=
  { assembly with
    stats := { assembly.stats with unresolvedUses := assembly.stats.unresolvedUses + 1 } }

mutual

/-- Stores what a form writes; the answer is the node it stands for, if any. -/
def add (assembly : Assembly) : Form → Option NodeId × Assembly
  | .node kind children =>
      let (ids, assembly) := addAll assembly children
      (some assembly.graph.nextId, assembly.store kind ids)
  | .named name form =>
      match add assembly form with
      | (some id, assembly) => (some id, assembly.giveName name id)
      | (none, assembly) => (none, assembly)
  | .reuse name =>
      match assembly.names[name]? with
      | some id => (some id, assembly)
      | none => (none, assembly.countUnresolved)

/-- Stores forms one after the other; the answer is the nodes they stand for. -/
def addAll (assembly : Assembly) : List Form → List NodeId × Assembly
  | [] => ([], assembly)
  | form :: forms =>
      let (id, assembly) := add assembly form
      let (ids, assembly) := addAll assembly forms
      (id.toList ++ ids, assembly)

end

end Assembly

/-- The scene of some tokens, with its counts; none when they do not begin with
    a node. -/
def assemble? (tokens : List Token) : Option (SceneGraph × Stats) := do
  let form ← readRoot? tokens
  match Assembly.add {} form with
  | (some root, assembly) => some ({ assembly.graph with root := some root }, assembly.stats)
  | (none, _) => none

/-- The scene that a text describes, with its counts; none when the text does
    not begin with a node. -/
def parse? (text : String) : Option (SceneGraph × Stats) := assemble? (tokens text)

/-- The scene that a text describes, empty when there is none. -/
def sceneOf (text : String) : SceneGraph := ((parse? text).map (·.1)).getD .empty

end VrmlWorld.Document
