-- What an Android run needs beyond its configuration: the API level, the entry
-- point, and the index of the package. Entry point and index are made on demand
-- and kept.
import AppBoundary.Census
import AppBoundary.Configuration
import AppBoundary.Dex.Package
import AppBoundary.EntryPoint

namespace AppBoundary

/-! ## The setup -/

/-- The state of an Android run. -/
structure AndroidSetup where
  apiLevel : Nat
  package : Path
  platformDirectory : Path
  entryPoint : EntryPointProvider
  filter : Filter
  /-- The index, once it has been read. -/
  index : Option ClassIndex

namespace AndroidSetup

/-- The setup of a configuration, with the API level that was found for its directory of platforms
and its package. -/
def new (config : Configuration) (levelOf : Path → Path → Option Nat)
    (limit : Regex.Limit := Regex.estimatedLimit) : Except Fault AndroidSetup :=
  match config.package?, config.platformDirectory with
  | some package, some directory =>
    match levelOf directory package with
    | none => .error (.platformDetection directory)
    | some level => do
      let filter ← Filter.ofEntries config.patterns limit
      return ⟨level, package, directory, .new directory package, filter, none⟩
  | _, _ => .error (.configuration .noPackage)

/-- The path of the archive made from the package. -/
def packageArchive (setup : AndroidSetup) : Path :=
  setup.package.withExtension "jar"

/-! ## On demand -/

/-- The entry point, built if need be, and the setup afterwards. -/
def getEntryPoint (synthesizer : Synthesizer) (setup : AndroidSetup) :
    Except Fault EntryPoint × AndroidSetup :=
  let (outcome, provider) := setup.entryPoint.get synthesizer
  (outcome, { setup with entryPoint := provider })

/-- The index, read from the files if need be, and the setup afterwards. An index that cannot be read
leaves the setup as it was. -/
def getIndex (tree : FileTree) (setup : AndroidSetup) : Except Fault ClassIndex × AndroidSetup :=
  match setup.index with
  | some index => (.ok index, setup)
  | none =>
    match ClassIndex.openFile tree setup.package with
    | .ok index => (.ok index, { setup with index := some index })
    | .error fault => (.error fault, setup)

/-- The number of application matches among the classes, and the setup afterwards. -/
def countClasses (tree : FileTree) (setup : AndroidSetup) : Except Fault Nat × AndroidSetup :=
  let (index, after) := setup.getIndex tree
  (index.map setup.filter.countClasses, after)

/-- The number of application matches among the methods, and the setup afterwards. -/
def countMethods (tree : FileTree) (setup : AndroidSetup) : Except Fault Nat × AndroidSetup :=
  let (index, after) := setup.getIndex tree
  (index.map setup.filter.countMethods, after)

/-! ## Diagnostic output -/

/-- A setup as diagnostic output shows it. -/
def diagnostic (setup : AndroidSetup) : String :=
  "AndroidSetup \x7b api_level: " ++ Text.decimal setup.apiLevel ++ ", apk: "
    ++ Text.quoted setup.package.text ++ ", platform_dir: "
    ++ Text.quoted setup.platformDirectory.text ++ ", entry_point: " ++ setup.entryPoint.diagnostic
    ++ " \x7d"

end AndroidSetup

end AppBoundary
