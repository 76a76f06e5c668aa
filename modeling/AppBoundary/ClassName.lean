-- Names of classes: the package a name lies in, and names taken apart into a
-- package and a simple name.

namespace AppBoundary

/-! ## The package of a name -/

/-- The text before the last dot, and nothing without a dot. -/
def packageOf (name : String) : String :=
  String.ofList ((name.toList.reverse.dropWhile (· != '.')).drop 1).reverse

/-! ## Descriptions of classes -/

/-- A class by its package and its simple name, as a registry of classes knows it. -/
structure ClassDescription where
  package : String
  simpleName : String
deriving DecidableEq

/-- The description read off a name. A name whose package is empty stays whole, a dot at its start
included. -/
def ClassDescription.ofName (name : String) : ClassDescription :=
  let package := packageOf name
  if package.isEmpty then ⟨package, name⟩
  else ⟨package, String.ofList (name.toList.drop (package.toList.length + 1))⟩

/-- The full name of a described class. -/
def ClassDescription.qualifiedName (description : ClassDescription) : String :=
  if description.package.isEmpty then description.simpleName
  else description.package ++ "." ++ description.simpleName

end AppBoundary
