-- Settings that have been found complete and consistent: what every part of a
-- run is given.
import AppBoundary.Classifier
import AppBoundary.RunMode
import AppBoundary.Settings

namespace AppBoundary

/-! ## Configurations -/

/-- A complete configuration. The rules are read from the patterns, which are kept for the filter. -/
structure Configuration where
  patterns : List String
  rules : RuleSet
  applicationArtifacts : List Path
  libraryArtifacts : List Path
  dynamicClassesFile : Option Path
  reflectionFactsFile : Option Path
  outputDirectory : Path
  runtimeDirectory : Option Path
  platformDirectory : Option Path
  mainClass : Option String
  mode : RunMode
deriving DecidableEq

namespace Configuration

/-- The configuration of some settings. Required settings are asked for first, then the patterns are
read, then the mode is found with the inputs it needs. -/
def ofSettings (settings : Settings) : Except Fault Configuration := do
  if settings.patterns.isEmpty then throw (.configuration .missingPatterns)
  if settings.applicationArtifacts.isEmpty then throw (.configuration .missingArtifacts)
  let outputDirectory ←
    match settings.outputDirectory with
    | some directory => pure directory
    | none => throw (.configuration .missingOutputDirectory)
  let rules ← RuleSet.parse settings.patterns
  let mode ← RunMode.detect settings.applicationArtifacts settings.platformDirectory.isSome
    settings.runtimeDirectory.isSome settings.mainClass.isSome
  return {
    patterns := settings.patterns
    rules := rules
    applicationArtifacts := settings.applicationArtifacts
    libraryArtifacts := settings.libraryArtifacts
    dynamicClassesFile := settings.dynamicClassesFile
    reflectionFactsFile := settings.reflectionFactsFile
    outputDirectory := outputDirectory
    runtimeDirectory := settings.runtimeDirectory
    platformDirectory := settings.platformDirectory
    mainClass := settings.mainClass
    mode := mode }

/-! ## The package of an Android run -/

/-- The only artifact of an Android run. -/
def package? (config : Configuration) : Option Path :=
  match config.mode with
  | .android => config.applicationArtifacts.head?
  | .java => none

/-- The path of the archive made from the package: the same path with another extension. -/
def packageArchive? (config : Configuration) : Option Path :=
  config.package?.map (·.withExtension "jar")

end Configuration

end AppBoundary
