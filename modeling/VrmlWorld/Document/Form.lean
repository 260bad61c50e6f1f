/-
  VrmlWorld/Document/Form.lean
  ============================
  **Nodes as they are written.**

  A file writes a node with its fields and children, gives it a name with
  `DEF`, or repeats a named one with `USE`. A form keeps exactly that; which
  node a repeated name stands for is settled when the scene is assembled.
-/
import VrmlWorld.Scene.Node

namespace VrmlWorld.Document

/-- A node as a file writes it. -/
inductive Form where
  | node (kind : NodeKind) (children : List Form)
  /-- The form behind `DEF name`. -/
  | named (name : String) (form : Form)
  /-- The node that `USE name` repeats. -/
  | reuse (name : String)
deriving Repr

end VrmlWorld.Document
