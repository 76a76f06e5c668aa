-- Settings files: their formats, and the names that are looked for where no
-- file is given.
import AppBoundary.FileTree
import AppBoundary.Settings.OfToml
import AppBoundary.Settings.OfYaml

namespace AppBoundary

/-! ## Faults -/

/-- Reasons why a settings file gives no settings. -/
inductive SettingsFault
  | unreadable (path : Path)
  | badYaml
  | badToml
  /-- The format is not known by name, and the text is in neither. -/
  | badText
deriving DecidableEq

def SettingsFault.message : SettingsFault → String
  | .unreadable path => "Failed to read settings file: " ++ path.text
  | .badYaml => "Failed to parse YAML settings"
  | .badToml => "Failed to parse TOML settings"
  | .badText => "Failed to parse settings file"

namespace Settings

/-! ## Formats -/

/-- How the format of a settings file is found. -/
inductive Format
  | yaml
  | toml
  /-- YAML is tried before TOML. -/
  | either
deriving DecidableEq

/-- The format of a file, by its extension. -/
def Format.ofPath (path : Path) : Format :=
  match path.extension?.map String.ofList with
  | some "yml" | some "yaml" => .yaml
  | some "toml" => .toml
  | _ => .either

/-- The settings of a text in a format. -/
def Format.read (format : Format) (text : String) : Except SettingsFault Settings :=
  match format with
  | .yaml => (ofYaml text).elim (.error .badYaml) .ok
  | .toml => (ofToml text).elim (.error .badToml) .ok
  | .either => ((ofYaml text).or (ofToml text)).elim (.error .badText) .ok

/-! ## Files -/

/-- The settings of a file. -/
def load (tree : FileTree) (path : Path) : Except SettingsFault Settings :=
  match tree.readText path with
  | .ok text => (Format.ofPath path).read text
  | .error _ => .error (.unreadable path)

/-- The names that are looked for in a directory, in this order. -/
def defaultNames : List String :=
  [".appscope.yml", ".appscope.yaml", ".appscope.toml", "appscope.yml", "appscope.yaml",
   "appscope.toml"]

/-- The settings of the first file with one of the names. Without such a file nothing is set. -/
def loadDefaults (tree : FileTree) (directory : Path) : Except SettingsFault Settings :=
  match (defaultNames.map directory.join).find? tree.pathExists with
  | some path => load tree path
  | none => .ok unset

end Settings

end AppBoundary
