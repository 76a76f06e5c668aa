-- The program. It looks up the files that its arguments and its settings name,
-- and leaves the rest to the run.
import AppBoundary.CommandLine.Run

namespace AppBoundary

open CommandLine (Arguments Outcome loadSettings run)

/-! ## Files -/

/-- The empty tree, with what the system tells of the working directory. -/
def startingTree : IO FileTree := do
  try
    let _ ← IO.currentDir
    return FileTree.empty
  catch _ => return { FileTree.empty with workingDirectory := .error .notFound }

/-- The tree with what stands at a path: a file with its bytes, or a directory without its entries. -/
def lookUp (tree : FileTree) (path : Path) : IO FileTree := do
  let start ← try IO.currentDir catch _ => pure "."
  let place := start / path.text
  if ← place.isDir then return tree.makeDirectory path
  if ← place.pathExists then return tree.write path (← IO.FS.readBinFile place)
  return tree

/-- The tree with the platforms in a directory. -/
def lookUpPlatforms (tree : FileTree) (directory : Path) : IO FileTree := do
  let mut tree ← lookUp tree directory
  let start ← try IO.currentDir catch _ => pure "."
  let place := start / directory.text
  if ← place.isDir then
    for entry in ← place.readDir do
      let platform := directory.join entry.fileName
      tree ← lookUp tree platform
      tree ← lookUp tree (platform.join "android.jar")
  return tree

/-- The files that arguments lead to: those that may hold settings, and those that the settings
name. -/
def filesFor (arguments : Arguments) : IO FileTree := do
  let tree ← startingTree
  let sources :=
    match arguments.path? .settingsFile, tree.workingDirectory with
    | some path, _ => [path]
    | none, .ok directory => Settings.defaultNames.map directory.join
    | none, .error _ => []
  let tree ← sources.foldlM lookUp tree
  match loadSettings tree arguments with
  | .error _ => return tree
  | .ok settings =>
    let tree ← settings.dynamicClassesFile.toList.foldlM lookUp tree
    let tree ← (settings.applicationArtifacts.filter (·.isPackage)).foldlM lookUp tree
    settings.platformDirectory.toList.foldlM lookUpPlatforms tree

/-! ## Output -/

/-- Writes an outcome, and gives its status. -/
def present (outcome : Outcome) : IO UInt32 := do
  IO.print outcome.output
  match outcome.ending, outcome.errorLine? with
  | .failed message, _ => IO.eprintln ("Error: " ++ message)
  | _, some line => IO.eprintln line
  | _, none => pure ()
  return outcome.status.toUInt32

end AppBoundary

/-- Runs the program with its arguments. -/
def main (arguments : List String) : IO UInt32 := do
  let tree ←
    match AppBoundary.CommandLine.Arguments.ofList arguments with
    | .ok given => AppBoundary.filesFor given
    | .error _ => pure AppBoundary.FileTree.empty
  AppBoundary.present (AppBoundary.CommandLine.run tree arguments)
