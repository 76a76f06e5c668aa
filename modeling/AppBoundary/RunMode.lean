-- The two kinds of run: one Android package, or conventional archives.
import AppBoundary.Fault

namespace AppBoundary

/-- The kind of program under analysis. -/
inductive RunMode
  | java
  | android
deriving DecidableEq

/-- The name of a mode. -/
def RunMode.name : RunMode → String
  | .java => "java"
  | .android => "android"

/-- The run is about an Android package. -/
def RunMode.isAndroid : RunMode → Bool
  | .android => true
  | .java => false

/-- The path of an Android package, by its extension. -/
def Path.isPackage (path : Path) : Bool :=
  path.extension? == some ['a', 'p', 'k']

/-- The mode for a list of artifacts, with the inputs that the mode needs. -/
def RunMode.detect (artifacts : List Path) (hasPlatform hasRuntime hasMainClass : Bool) :
    Except Fault RunMode :=
  if artifacts.any Path.isPackage then
    if 1 < artifacts.length then .error (.configuration .severalArtifacts)
    else if !hasPlatform then .error (.configuration .missingPlatformDirectory)
    else .ok .android
  else if !(hasRuntime && hasMainClass) then .error (.configuration .missingRuntimeOrMainClass)
  else .ok .java

end AppBoundary
