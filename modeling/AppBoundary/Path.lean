-- File paths as they are written. The text of a path is never changed on its
-- way through the program; the functions here read names off it and build new
-- paths beside it.

namespace AppBoundary

/-- A path, exactly as it was given. -/
structure Path where
  text : String
deriving DecidableEq

namespace Path

/-! ## The last component -/

/-- A reversed path without its trailing separators and without trailing components that mean the
directory itself. -/
def dropTail : List Char → List Char
  | '/' :: rest => dropTail rest
  | '.' :: '/' :: rest => dropTail rest
  | rest => rest

/-- The path up to the end of its last component, reversed. -/
def trimmed (path : Path) : List Char :=
  dropTail path.text.toList.reverse

/-- The last component, if it is a name and neither the directory itself nor its parent. -/
def fileName? (path : Path) : Option (List Char) :=
  let name := (path.trimmed.takeWhile (· != '/')).reverse
  if name = [] ∨ name = ['.'] ∨ name = ['.', '.'] then none else some name

/-- What stands before the last component, with its separator. -/
def parent (path : Path) : List Char :=
  (path.trimmed.dropWhile (· != '/')).reverse

/-! ## Stem and extension -/

/-- A name cut at its last dot. A name without a dot, and one whose only dot is its first
character, is all stem. -/
def splitExtension (name : List Char) : List Char × Option (List Char) :=
  let after := name.reverse.takeWhile (· != '.')
  match name.reverse.dropWhile (· != '.') with
  | _ :: c :: before => ((c :: before).reverse, some after.reverse)
  | _ => (name, none)

/-- The extension of the last component, without its dot. -/
def extension? (path : Path) : Option (List Char) :=
  path.fileName?.bind fun name => (splitExtension name).2

/-- The path cut behind the stem of its last component, with a dot and the extension put there. A
path without a last component stays as it is. -/
def setExtension (path : Path) (extension : String) : Path :=
  match path.fileName? with
  | none => path
  | some name =>
    ⟨String.ofList (path.parent ++ (splitExtension name).1) ++ "." ++ extension⟩

/-- The path with another extension. As many characters as the old extension has are taken off the
end of the text first; the rest of the old extension goes with the cut behind the stem. -/
def withExtension (path : Path) (extension : String) : Path :=
  match path.extension? with
  | none => path.setExtension extension
  | some old =>
    let kept := path.text.toList.take (path.text.toList.length - old.length)
    setExtension ⟨String.ofList kept⟩ extension

/-! ## Joining -/

/-- The path of an entry inside a directory. An absolute name stands alone. -/
def join (directory : Path) (name : String) : Path :=
  if name.toList.head? = some '/' then ⟨name⟩
  else if directory.text.isEmpty || directory.text.toList.getLast? = some '/' then
    ⟨directory.text ++ name⟩
  else ⟨directory.text ++ "/" ++ name⟩

end Path

end AppBoundary
