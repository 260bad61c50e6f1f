/-
  VrmlWorld/FileTree.lean
  =======================
  **Files, and trees of files as values.**

  What reads a file is given its text or the problem with it, so nothing below
  the command line touches a disk. A tree of files answers the same questions
  from memory. Besides the directories that hold files it has some of its own,
  the working directory among them, from which paths without a leading slash
  set out.
-/
import VrmlWorld.Location.Path

namespace VrmlWorld

/-- Why a file cannot be read or written. -/
inductive FileProblem where
  | missing
  | isDirectory
  /-- Something that is no directory is used as one. -/
  | notDirectory
  | nameTooLong
  /-- No path holds the character zero. -/
  | zeroInPath
  /-- What the file holds is no text. -/
  | notText
  /-- Another reason of the system, with its own words. -/
  | other (reason : String)
deriving DecidableEq, Repr

namespace FileProblem

def message : FileProblem → String
  | missing => "No such file or directory (os error 2)"
  | isDirectory => "Is a directory (os error 21)"
  | notDirectory => "Not a directory (os error 20)"
  | nameTooLong => "File name too long (os error 36)"
  | zeroInPath => "file name contained an unexpected NUL byte"
  | notText => "stream did not contain valid UTF-8"
  | other reason => reason

/-- Whether the problem is with what was found at the path, and not with the
    path. -/
def isWithContent : FileProblem → Bool
  | isDirectory | notText => true
  | _ => false

end FileProblem

/-- A place in a tree: the names on the way from the root. -/
abbrev FilePlace : Type := List String

/-- The texts of files at their places. -/
structure FileTree where
  files : List (FilePlace × String) := []
  /-- Directories that need no files to be there. -/
  directories : List FilePlace := []
  workingDirectory : FilePlace := []
deriving Repr

namespace FileTree

/-! ### Places -/

def nameLimit : Nat := 255

def pathLimit : Nat := 4095

def textAt? (tree : FileTree) (place : FilePlace) : Option String := tree.files.lookup place

def hasDirectory (tree : FileTree) (place : FilePlace) : Bool :=
  (tree.workingDirectory :: tree.directories ++ tree.files.map (·.1.dropLast)).any
    place.isPrefixOf

/-- Follows one segment of a path. An idle segment stays, but it too needs a
    directory to stay in. The root has nothing above it but itself. -/
def follow (tree : FileTree) (place : FilePlace) (segment : List Char) :
    Except FileProblem FilePlace :=
  if !tree.hasDirectory place then
    .error (if (tree.textAt? place).isSome then .notDirectory else .missing)
  else if Path.isIdle segment then .ok place
  else if segment = ['.', '.'] then .ok place.dropLast
  else
    let name := String.ofList segment
    if nameLimit < name.utf8ByteSize then .error .nameTooLong else .ok (place ++ [name])

def locate (tree : FileTree) (path : String) : Except FileProblem FilePlace :=
  if path.toList.contains '\x00' then .error .zeroInPath
  else if path.isEmpty then .error .missing
  else if pathLimit < path.utf8ByteSize then .error .nameTooLong
  else
    (Path.segments path.toList).foldlM tree.follow
      (if Path.isAbsolute path.toList then [] else tree.workingDirectory)

/-! ### Reading and writing -/

def read (tree : FileTree) (path : String) : Except FileProblem String := do
  let place ← tree.locate path
  match tree.textAt? place with
  | some text => .ok text
  | none => .error (if tree.hasDirectory place then .isDirectory else .missing)

/-- The tree with a text at a path, in place of what the file held before. -/
def write (tree : FileTree) (path text : String) : Except FileProblem FileTree := do
  let place ← tree.locate path
  if tree.hasDirectory place then .error .isDirectory
  else .ok { tree with files := (place, text) :: tree.files.filter (·.1 ≠ place) }

def withFiles (tree : FileTree) (files : List (String × String)) : FileTree :=
  let place (path : List Char) : FilePlace :=
    (if Path.isAbsolute path then [] else tree.workingDirectory)
      ++ ((Path.segments path).filter (!Path.isIdle ·)).map String.ofList
  { tree with files := tree.files ++ files.map fun (path, text) => (place path.toList, text) }

end FileTree

end VrmlWorld
