/-
  VrmlWorld/Location.lean
  =======================
  **Where documents and images live.**

  A reference with a scheme is an absolute URL, every other one a path. A
  relative reference is resolved against the location of the document that
  holds it: against the directory of a path, or against the last segment of a
  URL, whose scheme and authority it never leaves.
-/
import VrmlWorld.Asset
import VrmlWorld.Location.Path
import VrmlWorld.Text.Blank

namespace VrmlWorld

/-- A place of a document or an image. -/
inductive Location where
  | path (text : String)
  | url (text : String)
deriving DecidableEq, Repr

namespace Location

def text : Location → String
  | path text => text
  | url text => text

/-! ### Schemes -/

/-- Splits a text at the first `://`, which belongs to neither part. -/
def splitScheme? : List Char → Option (List Char × List Char)
  | ':' :: '/' :: '/' :: rest => some ([], rest)
  | c :: rest => (splitScheme? rest).map fun (scheme, tail) => (c :: scheme, tail)
  | [] => none

/-- The characters of a scheme, all of them ASCII. -/
def isSchemeChar (c : Char) : Bool := c.isAlphanum || c == '+' || c == '-' || c == '.'

def hasScheme (reference : List Char) : Bool :=
  match splitScheme? reference with
  | some (scheme, _) => !scheme.isEmpty && scheme.all isSchemeChar
  | none => false

def parse (reference : String) : Location :=
  if hasScheme reference.toList then url reference else path reference

/-! ### References -/

/-- A reference without a scheme, seen from a document at a path. -/
def besidePath (base reference : List Char) : List Char :=
  Path.join ((Path.parent? base).getD []) reference

/-- The text before the last slash; all of a text without one goes. -/
def beforeLastSlash (text : List Char) : List Char :=
  (text.reverse.dropWhile (· ≠ '/')).tail.reverse

/-- A reference without a scheme, seen from a document at a URL. One that
    starts with a slash replaces everything behind the authority, another one
    only the last segment. A base without `://` is no URL. -/
def besideUrl? (base reference : List Char) : Option (List Char) := do
  let (scheme, tail) ← splitScheme? base
  let origin := scheme ++ [':', '/', '/'] ++ tail.takeWhile (· ≠ '/')
  if Path.isAbsolute reference then some (origin ++ reference)
  else some (origin ++ beforeLastSlash (tail.dropWhile (· ≠ '/')) ++ '/' :: reference)

/-- Resolves a reference against the location of the document that holds it.
    White space around the reference is ignored. -/
def resolve (base : Option Location) (reference : String) : Except AssetError Location :=
  let reference := Text.trim reference.toList
  if reference.isEmpty then .error (.invalidLocation "empty reference")
  else if hasScheme reference then .ok (url (String.ofList reference))
  else
    match base with
    | none => .ok (path (String.ofList reference))
    | some (path base) => .ok (path (String.ofList (besidePath base.toList reference)))
    | some (url base) =>
        match besideUrl? base.toList reference with
        | some target => .ok (url (String.ofList target))
        | none => .error (.invalidLocation base)

end Location

end VrmlWorld
