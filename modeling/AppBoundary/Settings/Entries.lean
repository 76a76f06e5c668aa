-- Settings as the entries of a file: what each key sets, whatever the format
-- of the file.
import AppBoundary.Settings

namespace AppBoundary.Settings

/-! ## Keys -/

/-- The keys that mean something. -/
def knownKeys : List String :=
  ["application-regex", "main-class", "application-jars", "library-jars", "dynamic-classes-file",
   "tamiflex-facts-file", "output-directory", "java-runtime-directory", "android-platform-directory"]

/-! ## Values -/

/-- How a format reads its values: as a list of texts, and as one text that may be missing. -/
structure ValueReader (Value : Type) where
  list? : Value → Option (List String)
  text? : Value → Option (Option String)

/-- The settings with the value of one more key. Unknown keys are ignored, and so are their values. -/
def assign {Value : Type} (reader : ValueReader Value) (settings : Settings) (key : String)
    (value : Value) : Option Settings :=
  let paths? := (reader.list? value).map (·.map Path.mk)
  let path? := (reader.text? value).map (·.map Path.mk)
  match key with
  | "application-regex" => (reader.list? value).map ({ settings with patterns := · })
  | "main-class" => (reader.text? value).map ({ settings with mainClass := · })
  | "application-jars" => paths?.map ({ settings with applicationArtifacts := · })
  | "library-jars" => paths?.map ({ settings with libraryArtifacts := · })
  | "dynamic-classes-file" => path?.map ({ settings with dynamicClassesFile := · })
  | "tamiflex-facts-file" => path?.map ({ settings with reflectionFactsFile := · })
  | "output-directory" => path?.map ({ settings with outputDirectory := · })
  | "java-runtime-directory" => path?.map ({ settings with runtimeDirectory := · })
  | "android-platform-directory" => path?.map ({ settings with platformDirectory := · })
  | _ => some settings

/-! ## Entries -/

/-- The settings of the entries of a file. A known key stands at most once. -/
def ofEntries {Value : Type} (reader : ValueReader Value) (entries : List (String × Value)) :
    Option Settings :=
  if ((entries.map (·.1)).filter knownKeys.contains).Nodup then
    entries.foldlM (fun settings entry => assign reader settings entry.1 entry.2) unset
  else none

end AppBoundary.Settings
