/-
  VrmlWorld/Settings/File.lean
  ============================
  **Settings files.**

  The extension of its name tells the format of a file, and is looked at before
  the file is.
-/
import VrmlWorld.FileTree
import VrmlWorld.Settings.Ron
import VrmlWorld.Settings.Toml

namespace VrmlWorld

inductive SettingsFormat where
  | toml
  | ron
deriving DecidableEq, Repr

namespace SettingsFormat

/-- The format that the extension of a path tells, in whatever case. -/
def ofPath? (path : String) : Option SettingsFormat := do
  match String.ofList ((← Path.extension? path.toList).map Char.toLower) with
  | "toml" => some toml
  | "ron" => some ron
  | _ => none

def name : SettingsFormat → String
  | toml => "TOML"
  | ron => "RON"

def parse? : SettingsFormat → String → Option Settings
  | toml => Settings.parseToml?
  | ron => Settings.parseRon?

def text : SettingsFormat → Settings → String
  | toml => Settings.tomlText
  | ron => Settings.ronText

end SettingsFormat

/-- Why settings cannot be read or written. -/
inductive SettingsError where
  | inaccessible (path : String) (problem : FileProblem)
  | malformed (format : SettingsFormat) (path : String)
  | unsupportedFormat (path : String)
deriving DecidableEq, Repr

def SettingsError.message : SettingsError → String
  | inaccessible path problem => "Cannot access " ++ path ++ ": " ++ problem.message
  | malformed format path => format.name ++ " parse error in " ++ path
  | unsupportedFormat path =>
      "Unsupported config format: " ++ path ++ " (expected .toml or .ron)"

/-- The format of a file, or that it has none. -/
def SettingsFormat.ofPath (path : String) : Except SettingsError SettingsFormat :=
  match ofPath? path with
  | some format => .ok format
  | none => .error (.unsupportedFormat path)

namespace Settings

def parse (path text : String) : Except SettingsError Settings := do
  let format ← SettingsFormat.ofPath path
  match format.parse? text with
  | some settings => .ok settings
  | none => .error (.malformed format path)

/-- Settings from what a file system has to say about a file. -/
def load (path : String) (content : Except FileProblem String) :
    Except SettingsError Settings := do
  let _ ← SettingsFormat.ofPath path
  match content with
  | .ok text => parse path text
  | .error problem => .error (.inaccessible path problem)

def save (settings : Settings) (path : String) (tree : FileTree) :
    Except SettingsError FileTree := do
  let format ← SettingsFormat.ofPath path
  match tree.write path (format.text settings) with
  | .ok tree => .ok tree
  | .error problem => .error (.inaccessible path problem)

end Settings

end VrmlWorld
