/-
  VrmlWorld/Toml/Value.lean
  =========================
  **Values of TOML documents, and how tables grow.**

  A table is written in one place or in many: under a header of its own, by
  longer headers that only pass through it, by dotted keys, or between braces.
  How it was made decides what may still be added to it, so each table carries
  its origin. A table between braces is complete, one under a header is not
  opened twice, and dotted keys add only to tables made by dotted keys.
-/

namespace VrmlWorld.Toml

inductive TableOrigin where
  /-- A header that names it. -/
  | header
  /-- A header that names a table within it. -/
  | passage
  | dottedKey
  | braces
deriving DecidableEq, Repr

inductive Value where
  | text (content : String)
  | integer (n : Int)
  | float (x : Float)
  | boolean (flag : Bool)
  /-- A date, a time of day, or both. -/
  | moment
  | array (items : List Value)
  /-- An array whose elements are written under headers of their own. -/
  | tables (elements : List (List (String × Value)))
  | table (origin : TableOrigin) (entries : List (String × Value))
deriving Repr

/-- The entries of a table, each key once. -/
abbrev Entries := List (String × Value)

/-! ### Changing one entry -/

/-- Changes the entry of a key, which may be missing. A new entry comes last. -/
def Entries.alter? (change : Option Value → Option Value) (key : String) :
    Entries → Option Entries
  | [] => (change none).map fun value => [(key, value)]
  | (name, value) :: others =>
      if name = key then (change (some value)).map fun value => (name, value) :: others
      else (alter? change key others).map ((name, value) :: ·)

/-- Changes the last element of a list that is not empty. -/
def alterLast? {α : Type} (change : α → Option α) : List α → Option (List α)
  | [] => none
  | [last] => (change last).map ([·])
  | first :: others => (alterLast? change others).map (first :: ·)

/-! ### Following keys -/

/-- A way to a table: through the keys of a header, or through those of a
    dotted key. -/
inductive Route where
  | header
  | dottedKey
deriving DecidableEq, Repr

namespace Route

/-- The origin of the tables that a route makes where there are none. -/
def origin : Route → TableOrigin
  | header => .passage
  | dottedKey => .dottedKey

/-- Whether a route may go through a table; `isLast` says that the entry is to
    be changed in this very table. -/
def enters : Route → TableOrigin → Bool → Bool
  | _, .braces, _ => false
  | header, _, _ => true
  | dottedKey, .header, _ => false
  | dottedKey, .passage, isLast => !isLast
  | dottedKey, .dottedKey, _ => true

/-- Whether a route may go through the last element of an array of tables. -/
def entersElements : Route → Bool → Bool
  | header, _ => true
  | dottedKey, isLast => !isLast

end Route

/-- Changes the entry of a key in the table that a route of keys leads to. -/
def Entries.alterAlong? (route : Route) (change : Option Value → Option Value) :
    List String → String → Entries → Option Entries
  | [], key, entries => entries.alter? change key
  | next :: others, key, entries =>
      let enter := alterAlong? route change others key
      let enterNext : Option Value → Option Value := fun
        | none => (enter []).map (.table route.origin)
        | some (.table origin inner) =>
            if route.enters origin others.isEmpty then (enter inner).map (.table origin) else none
        | some (.tables elements) =>
            if route.entersElements others.isEmpty then (alterLast? enter elements).map .tables
            else none
        | some _ => none
      entries.alter? enterNext next

/-! ### Assignments and blocks -/

/-- A dotted key with its value: the keys before the last name tables. -/
structure Assignment where
  path : List String
  key : String
  value : Value
deriving Repr

/-- Adds an assignment to a table; no key gets two values. -/
def Entries.assign? (entries : Entries) (assignment : Assignment) : Option Entries :=
  entries.alterAlong? .dottedKey
    (fun | none => some assignment.value | some _ => none) assignment.path assignment.key

def Entries.assignAll? (entries : Entries) (assignments : List Assignment) : Option Entries :=
  assignments.foldlM assign? entries

/-- A header: `[path.key]`, or `[[path.key]]` for one more element of an array. -/
structure Header where
  isElement : Bool
  path : List String
  key : String
deriving Repr

/-- A header with the assignments below it. -/
structure Block where
  header : Header
  assignments : List Assignment
deriving Repr

/-- Adds a block to the table of the whole document. -/
def Entries.addBlock? (entries : Entries) (block : Block) : Option Entries :=
  let fill (inner : Entries) := inner.assignAll? block.assignments
  let change : Option Value → Option Value :=
    if block.header.isElement then fun
      | none => (fill []).map fun element => .tables [element]
      | some (.tables elements) => (fill []).map fun element => .tables (elements ++ [element])
      | some _ => none
    else fun
      | none => (fill []).map (.table .header)
      | some (.table .passage inner) => (fill inner).map (.table .header)
      | some _ => none
  entries.alterAlong? .header change block.header.path block.header.key

/-- The table of a document: the assignments before the first header, and the
    blocks. -/
def Entries.ofBlocks? (first : List Assignment) (blocks : List Block) : Option Entries := do
  blocks.foldlM addBlock? (← Entries.assignAll? [] first)

end VrmlWorld.Toml
