-- Descriptors of types and methods, as compiled code spells them, and the
-- source names they stand for.
import AppBoundary.Text.Affix

namespace AppBoundary

/-! ## Types -/

/-- The source name of a primitive type. -/
def primitiveName? (element : List Char) : Option String :=
  match element with
  | ['Z'] => some "boolean"
  | ['B'] => some "byte"
  | ['C'] => some "char"
  | ['S'] => some "short"
  | ['I'] => some "int"
  | ['J'] => some "long"
  | ['F'] => some "float"
  | ['D'] => some "double"
  | ['V'] => some "void"
  | _ => none

/-- The source name of a class: its internal name stands between `L` and a semicolon, with slashes
for dots. -/
def className? (element : List Char) : Option String :=
  (Text.afterStart? "L" (String.ofList element)).bind fun rest =>
    (Text.beforeEnd? ";" rest).map fun internal =>
      String.ofList (internal.toList.map fun c => if c = '/' then '.' else c)

/-- The source name of a type. Each leading bracket is a dimension of an array. A text that
describes no type is its own name. -/
def typeName (descriptor : String) : String :=
  let element := descriptor.toList.dropWhile (· == '[')
  let dimensions := descriptor.toList.length - element.length
  match (primitiveName? element).or (className? element) with
  | some name => name ++ String.join (List.replicate dimensions "[]")
  | none => descriptor

/-! ## Methods -/

/-- The descriptor of the class that declares a method: the text before the first hyphen. -/
def ownerOfMethod (method : String) : String :=
  String.ofList (method.toList.takeWhile (· != '-'))

end AppBoundary
