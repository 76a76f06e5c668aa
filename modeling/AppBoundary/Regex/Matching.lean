-- Matches of a regular expression in a text: whether there is one, and how
-- many there are without overlaps.
import AppBoundary.Regex.EmptyLoop

namespace AppBoundary.Regex

/-! ## Leftmost matches -/

/-- The ends of the matches of an expression, by the place where they begin. -/
def ends (regex : Regex) (text : List Char) : EndTable :=
  endTable text.toArray (emptyLoopTable text.toArray) regex

/-- Some match begins somewhere. -/
def EndTable.hasMatch (table : EndTable) : Bool :=
  table.ends.any fun ends => !ends.isEmpty

/-- The number of matches from a place on, each the preferred one of the leftmost place that has
any. An empty match where the one before ended does not count. -/
def EndTable.countFrom (table : EndTable) : Nat → Nat → Option Nat → Nat
  | 0, _, _ => 0
  | steps + 1, place, last =>
    if table.ends.size ≤ place then 0
    else
      match (table.endsFrom place).head? with
      | none => table.countFrom steps (place + 1) last
      | some ending =>
        if ending = place ∧ last = some place then table.countFrom steps (place + 1) last
        else table.countFrom steps ending (some ending) + 1

/-- The number of matches. A place is looked at twice at most: after a match that ends there, and
after an empty match at it. -/
def EndTable.count (table : EndTable) : Nat :=
  table.countFrom (2 * table.ends.size + 1) 0 none

/-- The expression matches somewhere in the text. -/
def isMatch (regex : Regex) (text : String) : Bool :=
  (regex.ends text.toList).hasMatch

/-- The number of matches in the text. -/
def countMatches (regex : Regex) (text : String) : Nat :=
  (regex.ends text.toList).count

end AppBoundary.Regex
