-- Classes that the analysed program loads by name: a file with one name per
-- line, and the two sides of the boundary they fall on.
import AppBoundary.Classifier
import AppBoundary.FileTree

namespace AppBoundary

/-! ## The list -/

/-- Names of dynamically loaded classes, in the order of their file. -/
structure DynamicClasses where
  names : List String
deriving DecidableEq

namespace DynamicClasses

/-- The lines of a text that are not empty, each one a name just as it stands. -/
def parse (content : String) : DynamicClasses :=
  ⟨(Text.lines content).filter (!·.isEmpty)⟩

/-- The names in a file. Without a file there are none. -/
def load (tree : FileTree) : Option Path → Except Fault DynamicClasses
  | none => .ok ⟨[]⟩
  | some path =>
    match tree.readText path with
    | .ok content => .ok (parse content)
    | .error cause => .error (.read path cause)

/-- The number of names, repeated ones counted each time. -/
def size (classes : DynamicClasses) : Nat :=
  classes.names.length

/-! ## The two sides -/

/-- The names on the application side. -/
def application (classes : DynamicClasses) (rules : RuleSet) : List String :=
  classes.names.filter rules.isApplication

/-- The names on the library side. -/
def library (classes : DynamicClasses) (rules : RuleSet) : List String :=
  classes.names.filter rules.isLibrary

end DynamicClasses

end AppBoundary
