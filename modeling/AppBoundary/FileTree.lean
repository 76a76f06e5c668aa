-- A tree of files and directories as a value, seen from one directory, and
-- what the operating system would answer about the paths in it.
import AppBoundary.Fault
import AppBoundary.Text.Split
import AppBoundary.Text.Utf8

namespace AppBoundary

/-! ## Trees -/

/-- What stands at one place of a tree. -/
inductive FileEntry
  | file (bytes : ByteArray)
  | directory

/-- Files and directories by their place: the names on the way from the working directory. A place
outside begins with a slash or with the name of the parent directory. The first entry of a place
is the one in force. -/
structure FileTree where
  entries : List (List String × FileEntry)
  /-- The working directory by its own name, or why that cannot be told: the directory may have been
  removed, and the way up from it closed. -/
  workingDirectory : Except ReadFault Path := .ok ⟨"."⟩
  /-- The files that may be read and the directories that may be listed, by their place. -/
  mayRead : List String → Bool := fun _ => true
  /-- The directories that a path may lead through. -/
  mayPass : List String → Bool := fun _ => true

namespace FileTree

/-- The tree with nothing in its working directory. -/
def empty : FileTree :=
  { entries := [] }

/-- The way from the working directory to the place itself. -/
def isAnchor (place : List String) : Bool :=
  place.all (· == "..") || place == ["/"]

/-- What stands at a place. The working directory, its parents and the root are always there. -/
def entry? (tree : FileTree) (place : List String) : Option FileEntry :=
  if isAnchor place then some .directory else tree.entries.lookup place

/-! ## Walking -/

/-- The step to one name below a place. -/
def step (place : List String) (name : String) : List String :=
  if name = "." then place
  else if name = ".." then
    match place.getLast? with
    | none | some ".." => place ++ [".."]
    | some "/" => place
    | some _ => place.dropLast
  else place ++ [name]

/-- The place that a path leads to. Every name on the way but the last is that of a directory that lets
the path through. -/
def walk (tree : FileTree) (place : List String) : List String → Except ReadFault (List String)
  | [] => .ok place
  | name :: rest =>
    match tree.entry? place with
    | none => .error .notFound
    | some (.file _) => .error .notDirectory
    | some .directory =>
      if tree.mayPass place then tree.walk (step place name) rest else .error .notPermitted

/-- The names of a path, without empty ones. -/
def namesOf (path : Path) : List String :=
  Text.segments '/' path.text

/-- A path that can only mean a directory. -/
def wantsDirectory (path : Path) : Bool :=
  let last := (Text.splitChars '/' path.text.toList).getLast?.getD []
  last.isEmpty || last == ['.'] || last == ['.', '.']

/-- What a path leads to. -/
def find (tree : FileTree) (path : Path) : Except ReadFault (List String × FileEntry) := do
  if path.text.toList.contains '\x00' then throw .nameHoldsNul
  if path.text.isEmpty then throw .notFound
  let start := if path.text.toList.head? = some '/' then ["/"] else []
  let place ← tree.walk start (namesOf path)
  match tree.entry? place with
  | none => throw .notFound
  | some (.file bytes) =>
    if wantsDirectory path then throw .notDirectory else return (place, .file bytes)
  | some .directory => return (place, .directory)

/-! ## Questions -/

/-- The bytes of a file. -/
def readBytes (tree : FileTree) (path : Path) : Except ReadFault ByteArray := do
  let (place, entry) ← tree.find path
  if !tree.mayRead place then throw .notPermitted
  match entry with
  | .file bytes => return bytes
  | .directory => throw .isDirectory

/-- The text of a file. -/
def readText (tree : FileTree) (path : Path) : Except ReadFault String := do
  let bytes ← tree.readBytes path
  match Text.decodeStrict bytes.toList with
  | some text => return text
  | none => throw .notUtf8

/-- Something stands at the path, file or directory. -/
def pathExists (tree : FileTree) (path : Path) : Bool :=
  (tree.find path).isOk

/-- A file stands at the path. -/
def isFile (tree : FileTree) (path : Path) : Bool :=
  match tree.find path with
  | .ok (_, .file _) => true
  | _ => false

/-- The names in a directory. -/
def list (tree : FileTree) (path : Path) : Except ReadFault (List String) := do
  match ← tree.find path with
  | (_, .file _) => throw .notDirectory
  | (place, .directory) =>
    if !tree.mayRead place then throw .notPermitted
    return (tree.entries.filterMap fun e =>
      if e.1.dropLast = place then e.1.getLast? else none).eraseDups

/-! ## Changes -/

/-- The place that a path names when nothing is in its way. -/
def placeOf (path : Path) : List String :=
  (namesOf path).foldl step (if path.text.toList.head? = some '/' then ["/"] else [])

/-- A directory at a place and at all places above it. -/
def addDirectories (tree : FileTree) (place : List String) : FileTree :=
  (List.range (place.length + 1)).foldl
    (fun tree n =>
      let above := place.take n
      if (tree.entry? above).isSome then tree
      else { tree with entries := (above, .directory) :: tree.entries })
    tree

/-- The tree with a directory at the path. -/
def makeDirectory (tree : FileTree) (path : Path) : FileTree :=
  tree.addDirectories (placeOf path)

/-- The tree with a file at the path, in place of what stood there. -/
def write (tree : FileTree) (path : Path) (bytes : ByteArray) : FileTree :=
  let place := placeOf path
  let tree := tree.addDirectories place.dropLast
  { tree with entries := (place, .file bytes) :: tree.entries.filter (·.1 != place) }

/-- The tree without what stood at the path. -/
def remove (tree : FileTree) (path : Path) : FileTree :=
  let place := placeOf path
  { tree with entries := tree.entries.filter fun e => !place.isPrefixOf e.1 }

end FileTree

end AppBoundary
