-- Settings as given, before anything is required of them, and the layering of
-- one source of settings over another.
import AppBoundary.Path
import AppBoundary.Text.Split

namespace AppBoundary

/-! ## Settings -/

/-- Settings from one source or several. A list that is empty and an option that is absent are not
set. -/
structure Settings where
  patterns : List String
  mainClass : Option String
  applicationArtifacts : List Path
  libraryArtifacts : List Path
  dynamicClassesFile : Option Path
  reflectionFactsFile : Option Path
  outputDirectory : Option Path
  runtimeDirectory : Option Path
  platformDirectory : Option Path
deriving DecidableEq

namespace Settings

/-- Nothing is set. -/
def unset : Settings :=
  ⟨[], none, [], [], none, none, none, none, none⟩

/-! ## Layers -/

/-- A list where it is set, and the one below it where it is not. -/
def mergeList {α : Type} (below above : List α) : List α :=
  if above.isEmpty then below else above

/-- The settings below with those above laid over them. -/
def merge (below above : Settings) : Settings :=
  { patterns := mergeList below.patterns above.patterns
    mainClass := above.mainClass.or below.mainClass
    applicationArtifacts := mergeList below.applicationArtifacts above.applicationArtifacts
    libraryArtifacts := mergeList below.libraryArtifacts above.libraryArtifacts
    dynamicClassesFile := above.dynamicClassesFile.or below.dynamicClassesFile
    reflectionFactsFile := above.reflectionFactsFile.or below.reflectionFactsFile
    outputDirectory := above.outputDirectory.or below.outputDirectory
    runtimeDirectory := above.runtimeDirectory.or below.runtimeDirectory
    platformDirectory := above.platformDirectory.or below.platformDirectory }

/-! ## Lists in one text -/

/-- The separator of lists that are given in one text. -/
def listSeparator : Char := ':'

/-- The segments of a list in one text, without empty ones. -/
def splitList (value : String) : List String :=
  Text.segments listSeparator value

end Settings

end AppBoundary
