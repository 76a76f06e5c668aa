-- The classes that compiled code defines and the methods it refers to, from
-- the bytes of one file or from parts.
import AppBoundary.Dex.Image

namespace AppBoundary

/-! ## The index -/

/-- Descriptors of defined classes and spellings of method references, in the order of their
tables. -/
structure ClassIndex where
  classes : List String
  methods : List String
deriving DecidableEq

namespace ClassIndex

/-- The index without classes and methods. -/
def empty : ClassIndex :=
  ⟨[], []⟩

/-- Two indices, one behind the other. -/
def append (first second : ClassIndex) : ClassIndex :=
  ⟨first.classes ++ second.classes, first.methods ++ second.methods⟩

/-- What an image lists: its classes first, then its methods. -/
def read (image : DexImage) : Except IndexFault ClassIndex := do
  if !image.hasHeader then throw .noHeader
  let classes ← image.classes
  let methods ← image.methods
  return ⟨classes, methods.map MethodReference.text⟩

/-- What the bytes of a file list. A fault names the path of the file. -/
def ofBytes (bytes : ByteArray) (path : Path) : Except Fault ClassIndex :=
  match read ⟨bytes⟩ with
  | .ok index => .ok index
  | .error cause => .error (.malformedIndex path cause)

end ClassIndex

end AppBoundary
