-- Character properties by the names that a pattern may give them.
import AppBoundary.Unicode.Age
import AppBoundary.Unicode.Segmentation

namespace AppBoundary.Unicode

/-! ## Names -/

/-- A property name in normal form: small ASCII letters, without blanks, hyphens and underscores,
and without `is` in front. What is not ASCII is left out. The name `isc` keeps its start. -/
def normalName (name : List Char) : String :=
  let squeeze := fun cs : List Char =>
    (cs.filter fun c => c.toNat < 0x80 && c != ' ' && c != '_' && c != '-').map Char.toLower
  match name with
  | i :: s :: rest =>
    if i.toLower = 'i' ∧ s.toLower = 's' then
      if squeeze rest = ['c'] then "isc" else String.ofList (squeeze rest)
    else String.ofList (squeeze name)
  | _ => String.ofList (squeeze name)

/-! ## Sets by name -/

/-- The characters of a property, a category or a script. -/
def property? (name : List Char) : Option CharSet :=
  let n := normalName name
  ((trait? n).or (category? n)).or (script? n)

/-- The characters for which a named property has a value. -/
def propertyValue? (name value : List Char) : Option CharSet :=
  let v := normalName value
  match normalName name with
  | "gc" | "generalcategory" => category? v
  | "sc" | "script" => script? v
  | "scx" | "scriptextensions" => scriptExtension? v
  | "age" => age? v
  | "gcb" | "graphemeclusterbreak" => Segmentation.grapheme? v
  | "wb" | "wordbreak" => Segmentation.word? v
  | "sb" | "sentencebreak" => Segmentation.sentence? v
  | _ => none

/-! ## Classes with a letter of their own -/

/-- Decimal digits of every script. -/
def digits : CharSet :=
  (category? "nd").getD .empty

/-- White space. -/
def spaces : CharSet :=
  (trait? "whitespace").getD .empty

/-- Characters of words: letters, marks, decimal digits, connectors and joiners. -/
def wordCharacters : CharSet :=
  (((((trait? "alphabetic").getD .empty).union ((category? "m").getD .empty)).union digits).union
    ((category? "pc").getD .empty)).union ((trait? "joincontrol").getD .empty)

end AppBoundary.Unicode
