-- The boundary between application and library code: a class belongs to the
-- application when a rule covers it.
import AppBoundary.ClassName
import AppBoundary.Pattern.RuleSet
import AppBoundary.Text.Caseless

namespace AppBoundary

/-! ## One rule -/

/-- The rule covers the class of this name and package. Names and packages are compared without
regard to case, starts of names with regard to it. -/
def Rule.covers (rule : Rule) (name package : String) : Bool :=
  match rule.kind with
  | .exactClass => Text.eqIgnoreCase rule.source name
  | .package expected => Text.eqIgnoreCase expected package
  | .superPackage start => Text.startsWith start name
  | .defaultPackage => package.isEmpty

/-! ## A rule set -/

namespace RuleSet

/-- The class of this name belongs to the application. -/
def isApplication (rules : RuleSet) (name : String) : Bool :=
  rules.rules.any (·.covers name (packageOf name))

/-- The class of this name belongs to the libraries. -/
def isLibrary (rules : RuleSet) (name : String) : Bool :=
  !rules.isApplication name

/-- The described class belongs to the application. Its package is the one of the description,
wherever the dots of its full name stand. -/
def isApplicationClass (rules : RuleSet) (description : ClassDescription) : Bool :=
  rules.rules.any (·.covers description.qualifiedName description.package)

/-- The described class belongs to the libraries. -/
def isLibraryClass (rules : RuleSet) (description : ClassDescription) : Bool :=
  !rules.isApplicationClass description

/-- The class that a registry finds for a name belongs to the application. -/
def isApplicationIn (rules : RuleSet) (registry : String → ClassDescription) (name : String) : Bool :=
  rules.isApplicationClass (registry name)

/-- The class that a registry finds for a name belongs to the libraries. -/
def isLibraryIn (rules : RuleSet) (registry : String → ClassDescription) (name : String) : Bool :=
  !rules.isApplicationIn registry name

/-- The application names and the library names of a list, both in its order. -/
def partition (rules : RuleSet) (names : List String) : List String × List String :=
  names.partition rules.isApplication

end RuleSet

end AppBoundary
