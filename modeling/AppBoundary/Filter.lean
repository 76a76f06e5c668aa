-- The bulk filter: one regular expression made of all patterns, which searches
-- inside names. It knows neither packages nor cases, so it can disagree with
-- the classifier.
import AppBoundary.Fault
import AppBoundary.Regex.Pattern

namespace AppBoundary

/-! ## The text of the filter -/

/-- An entry as a part of a regular expression: a dot is itself, a run of stars is any text within
a line, and everything else stays as it is. The flag says that a star came just before. -/
def expandWildcards (afterStar : Bool) : List Char → List Char
  | [] => []
  | '.' :: rest => '\\' :: '.' :: expandWildcards false rest
  | '*' :: rest =>
    if afterStar then expandWildcards true rest else '.' :: '*' :: expandWildcards true rest
  | c :: rest => c :: expandWildcards false rest

/-- An entry as one branch of the filter. -/
def filterBranch (entry : String) : String :=
  "(?:" ++ String.ofList (expandWildcards false entry.toList) ++ ")"

/-- The regular expression of a list of entries, as text. -/
def filterText (entries : List String) : Except Fault String :=
  if entries.isEmpty then .error (.configuration .noPatterns)
  else .ok (String.intercalate "|" (entries.map filterBranch))

/-! ## The filter -/

/-- A filter with the text it was read from. -/
structure Filter where
  text : String
  regex : Regex

namespace Filter

/-- The filter of a list of entries. The text of an entry may be no regular expression, and the whole
may be too large. -/
def ofEntries (entries : List String) (limit : Regex.Limit := Regex.estimatedLimit) :
    Except Fault Filter := do
  let text ← filterText entries
  match Regex.read? text.toList limit with
  | some regex => return ⟨text, regex⟩
  | none => throw (.invalidPattern text)

/-- The filter matches somewhere in a text. -/
def isMatch (filter : Filter) (text : String) : Bool :=
  filter.regex.isMatch text

/-- The number of matches in a text. -/
def countMatches (filter : Filter) (text : String) : Nat :=
  filter.regex.countMatches text

end Filter

end AppBoundary
