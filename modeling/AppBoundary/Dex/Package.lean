-- The index of an Android package: all files of compiled code in it, in the
-- order of their numbers.
import AppBoundary.Archive.Package
import AppBoundary.Dex.Index
import AppBoundary.FileTree
import AppBoundary.RunMode

namespace AppBoundary

/-! ## Entries with compiled code -/

/-- The start of the names of entries with compiled code. -/
def codeStart : List Char := ['c', 'l', 'a', 's', 's', 'e', 's']

/-- The end of the names of entries with compiled code. -/
def codeEnd : List Char := ['.', 'd', 'e', 'x']

/-- An entry with compiled code, outside of any directory. -/
def isCodeEntry (name : String) : Bool :=
  !name.toList.contains '/' && codeStart.isPrefixOf name.toList && codeEnd.isSuffixOf name.toList

/-- A list without any number of repetitions of `start` in front. Each takes an element, so the
length bounds their number. -/
def dropStarts (start : List Char) : Nat → List Char → List Char
  | 0, cs => cs
  | n + 1, cs => if start.isPrefixOf cs then dropStarts start n (cs.drop start.length) else cs

/-- The number of an entry with compiled code: what is left between all starts and all ends, and one
if that is no number. -/
def codeOrder (name : String) : Nat :=
  let tail := dropStarts codeStart name.toList.length name.toList
  let middle := (dropStarts codeEnd.reverse tail.length tail.reverse).reverse
  (Text.word? (String.ofList middle)).getD 1

/-! ## The index of a package -/

namespace ClassIndex

/-- The index of one entry. -/
def ofEntry (package : Package) (path : Path) (name : String) : Except Fault ClassIndex :=
  match package.contents name with
  | .ok bytes => ofBytes bytes (path.join name)
  | .error (.opening cause) => .error (.archive path cause)
  | .error (.data cause) => .error (.read (path.join name) cause)

/-- The indices of a list of entries, one behind the other. The first fault ends the reading. -/
def ofEntries (package : Package) (path : Path) : List String → Except Fault ClassIndex
  | [] => .ok .empty
  | name :: rest => do
    let first ← ofEntry package path name
    let others ← ofEntries package path rest
    return first.append others

/-- The names of the entries with compiled code, in the order of their numbers. -/
def codeEntries (package : Package) : List String :=
  (package.names.filter isCodeEntry).mergeSort fun a b => codeOrder a ≤ codeOrder b

/-- The index of a package, which holds at least one entry with compiled code. -/
def ofPackage (package : Package) (path : Path) : Except Fault ClassIndex :=
  if (codeEntries package).isEmpty then .error (.malformedIndex path .noEntry)
  else ofEntries package path (codeEntries package)

/-- The index of an archive, given by its bytes. -/
def ofArchive (bytes : ByteArray) (path : Path) : Except Fault ClassIndex :=
  match Archive.openPackage bytes with
  | .ok package => ofPackage package path
  | .error cause => .error (.archive path cause)

/-! ## Files -/

/-- The bytes of a file, or the fault that names it. -/
def fileBytes (tree : FileTree) (path : Path) : Except Fault ByteArray :=
  match tree.readBytes path with
  | .ok bytes => .ok bytes
  | .error cause => .error (.read path cause)

/-- The index of an archive file, whatever its name. -/
def openArchive (tree : FileTree) (path : Path) : Except Fault ClassIndex := do
  ofArchive (← fileBytes tree path) path

/-- The index of a file: an archive if its name says so, compiled code otherwise. -/
def openFile (tree : FileTree) (path : Path) : Except Fault ClassIndex :=
  if path.isPackage then openArchive tree path
  else do ofBytes (← fileBytes tree path) path

end ClassIndex

end AppBoundary
