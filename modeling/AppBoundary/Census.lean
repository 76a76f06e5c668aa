-- The census of an index: how many matches of the filter lie in the names of
-- its classes, and in the names of the classes that its methods belong to.
import AppBoundary.Descriptor
import AppBoundary.Dex.Index
import AppBoundary.Filter

namespace AppBoundary.Filter

/-- The matches in the name of a class, given by its descriptor. -/
def countClass (filter : Filter) (descriptor : String) : Nat :=
  filter.countMatches (typeName descriptor)

/-- The matches in the name of the class that a method belongs to. -/
def countMethod (filter : Filter) (method : String) : Nat :=
  filter.countClass (ownerOfMethod method)

/-- The matches in the names of all classes of an index. -/
def countClasses (filter : Filter) (index : ClassIndex) : Nat :=
  (index.classes.map filter.countClass).foldr (· + ·) 0

/-- The matches in the names of the classes of all methods of an index. -/
def countMethods (filter : Filter) (index : ClassIndex) : Nat :=
  (index.methods.map filter.countMethod).foldr (· + ·) 0

end AppBoundary.Filter
