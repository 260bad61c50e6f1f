/-
  VrmlWorld/Location/Path.lean
  ============================
  **File system paths as texts.**

  A path is never normalised: it is an optional head (a leading slash, or the
  dot of a path that starts in the current directory) and a body of segments
  between slashes. A segment is idle when it names nothing, because it is empty
  or a single dot; idle segments at the end are ignored when the last component
  is looked for, and `..` is a component like any other.
-/

namespace VrmlWorld.Path

/-! ### Segments -/

/-- The pieces of a text between slashes; their number is one more than that
    of the slashes. -/
def segments : List Char → List (List Char)
  | [] => [[]]
  | c :: rest =>
      match segments rest with
      | [] => [[c]]
      | first :: others => if c = '/' then [] :: first :: others else (c :: first) :: others

def joined : List (List Char) → List Char
  | [] => []
  | [piece] => piece
  | piece :: others => piece ++ '/' :: joined others

def isIdle (segment : List Char) : Bool := segment == [] || segment == ['.']

/-- The segments without the idle ones at their end. -/
def settled (pieces : List (List Char)) : List (List Char) :=
  (pieces.reverse.dropWhile isIdle).reverse

def isAbsolute : List Char → Bool
  | '/' :: _ => true
  | _ => false

def splitHead : List Char → List Char × List Char
  | '/' :: body => (['/'], body)
  | ['.'] => (['.'], [])
  | '.' :: '/' :: body => (['.'], '/' :: body)
  | body => ([], body)

/-! ### Operations -/

/-- The path without its last component. The root and the empty path have no
    component to drop. -/
def parent? (path : List Char) : Option (List Char) :=
  let (head, body) := splitHead path
  match settled (segments body) with
  | [] => if head = ['.'] then some [] else none
  | pieces => some (head ++ joined (settled pieces.dropLast))

/-- The path of `other` seen from the directory `directory`. -/
def join (directory other : List Char) : List Char :=
  if isAbsolute other then other
  else
    match directory.getLast? with
    | none => other
    | some '/' => directory ++ other
    | some _ => directory ++ '/' :: other

/-- The name of the file, if the last component is one. -/
def fileName? (path : List Char) : Option (List Char) :=
  match (settled (segments (splitHead path).2)).getLast? with
  | some name => if name = ['.', '.'] then none else some name
  | none => none

/-- What stands behind the last point of the file name, if something stands
    before that point. -/
def extension? (path : List Char) : Option (List Char) := do
  let name ← fileName? path
  let reversed := name.reverse
  match reversed.dropWhile (· ≠ '.') with
  | _ :: before => if before.isEmpty then none else some (reversed.takeWhile (· ≠ '.')).reverse
  | [] => none

end VrmlWorld.Path
