-- A whole run: arguments and files in, exit status and output out.
import AppBoundary.AndroidSetup
import AppBoundary.CommandLine.Arguments
import AppBoundary.DynamicClasses
import AppBoundary.Platform
import AppBoundary.Settings.File

namespace AppBoundary.CommandLine

open Text (decimal)

/-! ## Reports -/

/-- The lines of a report, and what cut it short. -/
structure Report where
  lines : List String
  fault : Option Fault

namespace Report

/-- The lines about the configuration. -/
def configurationLines (config : Configuration) : List String :=
  ["Mode: " ++ config.mode.name, "Application patterns: " ++ config.rules.counts.text]
    ++ config.applicationArtifacts.map (fun path => "  app " ++ path.text)
    ++ config.libraryArtifacts.map (fun path => "  lib " ++ path.text)
    ++ ["Output directory: " ++ config.outputDirectory.text]

/-- The line about dynamically loaded classes, if there is a file of them. -/
def dynamicLines (config : Configuration) (classes : DynamicClasses) : List String :=
  if config.dynamicClassesFile.isNone then []
  else
    ["Dynamic classes: " ++ decimal classes.size ++ " ("
      ++ decimal (classes.application config.rules).length ++ " application, "
      ++ decimal (classes.library config.rules).length ++ " library)"]

/-- The line about reflection facts, if there is a file of them. -/
def factsLines (config : Configuration) : List String :=
  (config.reflectionFactsFile.map fun path => "TamiFlex facts: " ++ path.text).toList

/-- The side of the boundary that a class is on. -/
def sideOf (config : Configuration) (name : String) : String :=
  if config.rules.isApplication name then "application" else "library"

/-- The lines about the main class and the runtime environment. -/
def javaLines (config : Configuration) : List String :=
  (config.mainClass.map fun name =>
    "Main class: " ++ name ++ " (" ++ sideOf config name ++ ")").toList
    ++ (config.runtimeDirectory.map fun path => "Java runtime: " ++ path.text).toList

/-- The line about references to the application in the package of a setup. -/
def censusLine (tree : FileTree) (setup : AndroidSetup) : Except Fault String := do
  let (classes, setup) := setup.countClasses tree
  let classes ← classes
  let methods ← (setup.countMethods tree).1
  return "Application references: " ++ decimal classes ++ " classes, " ++ decimal methods ++ " methods"

/-- The part of the report about an Android package. -/
def android (tree : FileTree) (config : Configuration)
    (limit : Regex.Limit := Regex.estimatedLimit) : Report :=
  match AndroidSetup.new config (fun directory _ => Platform.apiLevel? tree directory) limit with
  | .error fault => ⟨[], some fault⟩
  | .ok setup =>
    let level := "Android API level: " ++ decimal setup.apiLevel
    match censusLine tree setup with
    | .error fault => ⟨[level], some fault⟩
    | .ok line => ⟨[level, line], none⟩

/-- The part of the report that depends on the mode. -/
def ofMode (tree : FileTree) (config : Configuration)
    (limit : Regex.Limit := Regex.estimatedLimit) : Report :=
  match config.mode with
  | .java => ⟨javaLines config, none⟩
  | .android => android tree config limit

/-- The report on a configuration. -/
def ofConfiguration (tree : FileTree) (config : Configuration)
    (limit : Regex.Limit := Regex.estimatedLimit) : Report :=
  let first := configurationLines config
  match DynamicClasses.load tree config.dynamicClassesFile with
  | .error fault => ⟨first, some fault⟩
  | .ok classes =>
    let last := ofMode tree config limit
    ⟨first ++ dynamicLines config classes ++ factsLines config ++ last.lines, last.fault⟩

/-- The lines as one text. -/
def text (report : Report) : String :=
  String.join (report.lines.map (· ++ "\n"))

end Report

/-! ## Outcomes -/

/-- How a run ends. -/
inductive Ending
  /-- It did what it was asked to. -/
  | complete
  /-- It was not used as it should be. -/
  | misused (message : String)
  /-- It was cut short. -/
  | failed (message : String)
deriving DecidableEq

/-- What a run leaves behind. -/
structure Outcome where
  ending : Ending
  output : String
deriving DecidableEq

namespace Outcome

/-- The exit status. Only a run that was cut short has another one than zero. -/
def status (outcome : Outcome) : Nat :=
  match outcome.ending with
  | .failed _ => 1
  | _ => 0

/-- The line about an error in the usage. Of a message with several lines, the first one counts. -/
def errorLine? (outcome : Outcome) : Option String :=
  match outcome.ending with
  | .misused message => some ("error: " ++ String.ofList (message.toList.takeWhile (· ≠ '\n')))
  | _ => none

/-- The help for a run that was not used as it should be. -/
def usage (message : String) : Outcome :=
  ⟨.misused message, helpText ++ "\n"⟩

/-- The outcome for a configuration. -/
def ofConfiguration (tree : FileTree) (config : Configuration)
    (limit : Regex.Limit := Regex.estimatedLimit) : Outcome :=
  let report := Report.ofConfiguration tree config limit
  ⟨report.fault.elim .complete (.failed ·.message), report.text⟩

/-- The outcome for settings that have been merged. -/
def ofSettings (tree : FileTree) (settings : Settings)
    (limit : Regex.Limit := Regex.estimatedLimit) : Outcome :=
  match Configuration.ofSettings settings with
  | .ok config => ofConfiguration tree config limit
  | .error fault => if fault.isConfiguration then usage fault.message else ⟨.failed fault.message, ""⟩

end Outcome

/-! ## Settings -/

/-- Reasons why a run has no settings. -/
inductive LoadFault
  /-- The default files would be in the working directory, and it cannot be told which that is. -/
  | workingDirectory (cause : ReadFault)
  | file (fault : SettingsFault)
deriving DecidableEq

def LoadFault.message : LoadFault → String
  | .workingDirectory cause => cause.message
  | .file fault => fault.message

/-- The settings of the file that the arguments name, or else of the first default one in the working
directory. -/
def settingsBelow (tree : FileTree) (arguments : Arguments) : Except LoadFault Settings :=
  match arguments.path? .settingsFile with
  | some path => (Settings.load tree path).mapError .file
  | none =>
    match tree.workingDirectory with
    | .ok directory => (Settings.loadDefaults tree directory).mapError .file
    | .error cause => .error (.workingDirectory cause)

/-- The settings of a run: those of a file, under those of the arguments. -/
def loadSettings (tree : FileTree) (arguments : Arguments) : Except LoadFault Settings := do
  let below ← settingsBelow tree arguments
  return below.merge arguments.settings

/-! ## Runs -/

/-- The outcome for arguments that have been understood. -/
def Outcome.ofArguments (tree : FileTree) (arguments : Arguments)
    (limit : Regex.Limit := Regex.estimatedLimit) : Outcome :=
  match loadSettings tree arguments with
  | .error fault => ⟨.failed fault.message, ""⟩
  | .ok settings => .ofSettings tree settings limit

/-- The outcome of a run with some arguments, where these files are. -/
def run (tree : FileTree) (arguments : List String)
    (limit : Regex.Limit := Regex.estimatedLimit) : Outcome :=
  match Arguments.ofList arguments with
  | .ok arguments => .ofArguments tree arguments limit
  | .error .help => ⟨.complete, helpText⟩
  | .error .version => ⟨.complete, versionText⟩
  | .error (.fault cause) => .usage cause.message

end AppBoundary.CommandLine
