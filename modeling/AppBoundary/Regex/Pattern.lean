-- Patterns as text: the regular expression of a pattern that is well formed,
-- about whole characters, and not too large.
import AppBoundary.Regex.Matching
import AppBoundary.Regex.OfTree
import AppBoundary.Regex.Reader
import AppBoundary.Regex.Size

namespace AppBoundary.Regex

/-- The regular expression of a pattern, before its size is looked at. -/
def parse? (pattern : List Char) : Option Regex :=
  (Tree.read? pattern).bind fun tree => (ofTree {} tree).map (·.1)

/-- What the engine that runs a pattern says of the size of its program: the patterns that it admits. -/
abbrev Limit := List Char → Bool

/-- The limit by the estimate of sizes. -/
def estimatedLimit : Limit := fun pattern =>
  (parse? pattern).any fits

/-- The regular expression of a pattern that the limit admits. -/
def read? (pattern : List Char) (limit : Limit := estimatedLimit) : Option Regex :=
  if limit pattern then parse? pattern else none

end AppBoundary.Regex
