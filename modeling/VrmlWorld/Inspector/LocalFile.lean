/-
  VrmlWorld/Inspector/LocalFile.lean
  ==================================
  **Documents and images in local files.**

  A location is a local file if it is a path, or a URL whose scheme is `file`
  in small letters; what follows the scheme is then the path as it stands.
-/
import VrmlWorld.Asset
import VrmlWorld.FileTree
import VrmlWorld.Location

namespace VrmlWorld.LocalFile

/-- The path of a location, if it is local. -/
def pathOf : Location → Except AssetError String
  | .path path => .ok path
  | .url url =>
      if "file://".isPrefixOf url then .ok (String.ofList (url.toList.drop 7))
      else .error (.unsupported url)

def document (path : String) : Except FileProblem String → Except AssetError String
  | .ok text => .ok text
  | .error .missing => .error (.notFound path)
  | .error problem => .error (.io problem.message)

/-- Whether the extension of a path names a format that can be decoded. -/
def hasImageFormat (path : String) : Bool :=
  match (Path.extension? path.toList).map fun name => String.ofList (name.map Char.toLower) with
  | some name => name == "png" || name == "apng"
  | none => false

/-- Checks that a file can be an image. Its name tells the format, and is looked
    at once the file is found; what is on it does not matter here. -/
def image (path : String) : Except FileProblem String → Except AssetError Unit
  | .error .missing => .error (.notFound path)
  | .error problem =>
      if problem.isWithContent && !hasImageFormat path then .error (.unsupported path)
      else .error (.decode (path ++ ": " ++ problem.message))
  | .ok _ => if hasImageFormat path then .ok () else .error (.unsupported path)

variable {m : Type → Type} [Monad m]

def fetch (read : String → m (Except FileProblem String)) (location : Location) :
    m (Except AssetError String) :=
  match pathOf location with
  | .ok path => document path <$> read path
  | .error error => pure (.error error)

def findImage (read : String → m (Except FileProblem String)) (location : Location) :
    m (Except AssetError Unit) :=
  match pathOf location with
  | .ok path => image path <$> read path
  | .error error => pure (.error error)

end VrmlWorld.LocalFile
