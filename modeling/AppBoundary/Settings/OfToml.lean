-- Settings written in TOML.
import AppBoundary.Settings.Entries
import AppBoundary.Toml.Document

namespace AppBoundary.Settings

open Toml (Item)

/-! ## Values -/

/-- An item that is a text. -/
def tomlText? : Item → Option String
  | .text chars => some (String.ofList chars)
  | _ => none

/-- An array of texts. -/
def tomlList? : Item → Option (List String)
  | .list items => items.mapM tomlText?
  | _ => none

/-! ## Documents -/

/-- The settings of a text in TOML. -/
def ofToml (text : String) : Option Settings := do
  ofEntries ⟨tomlList?, fun item => (tomlText? item).map some⟩ (← Toml.readDocument text)

end AppBoundary.Settings
