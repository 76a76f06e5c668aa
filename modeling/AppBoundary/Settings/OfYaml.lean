-- Settings written in YAML.
import AppBoundary.Settings.Entries
import AppBoundary.Yaml.Document

namespace AppBoundary.Settings

open Yaml (Document Node)

/-! ## Values -/

/-- The text of a scalar, whatever its tag and its style. -/
def yamlText? (document : Document) (node : Node Nat) : Option String :=
  match document.follow node with
  | .scalar _ _ _ text => some (String.ofList text)
  | _ => none

/-- The plain spellings of a missing value. -/
def isNull (text : List Char) : Bool :=
  ["~", "null", "Null", "NULL"].contains (String.ofList text)

/-- The tag of a missing value. -/
def nullTag : List Char :=
  "tag:yaml.org,2002:null".toList

/-- A text that may be missing. Without a tag, a plain scalar that is empty or spells a missing value
is one; with the tag of a missing value, it must spell one. -/
def yamlOptional? (document : Document) (node : Node Nat) : Option (Option String) :=
  match document.follow node with
  | .scalar _ tag isPlain text =>
    let given := some (some (String.ofList text))
    if !isPlain then given
    else if tag.isNone then if text.isEmpty || isNull text then some none else given
    else if tag = some nullTag then if isNull text then some none else none
    else given
  | _ => none

/-- A list of texts. A plain scalar that is empty is an empty list. -/
def yamlList? (document : Document) (node : Node Nat) : Option (List String) :=
  match document.follow node with
  | .sequence _ items => items.mapM (yamlText? document)
  | .scalar _ _ true [] => some []
  | _ => none

/-! ## Documents -/

/-- The settings of a document: a mapping with texts for its keys, or nothing at all. -/
def ofDocument (document : Document) : Option Settings :=
  match document.root with
  | .mapping _ parts => do
    let entries ← (Yaml.pairs parts).mapM fun (key, value) => do
      return (← yamlText? document key, value)
    ofEntries ⟨yamlList? document, yamlOptional? document⟩ entries
  | .scalar _ _ true [] => some unset
  | _ => none

/-- The settings of a text in YAML. A text without a document sets nothing. -/
def ofYaml (text : String) : Option Settings := do
  match ← Yaml.readDocument text with
  | none => return unset
  | some document => ofDocument document

end AppBoundary.Settings
