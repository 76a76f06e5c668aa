-- The gap between two stretches of a scalar: blanks, or breaks with blanks
-- around them, which fold.
import AppBoundary.Yaml.Cursor

namespace AppBoundary.Yaml

/-! ## Gaps -/

/-- What has been read of a gap. -/
structure Gap where
  /-- Blanks, as long as there is no break. -/
  blanks : List Char
  /-- There is a break, or an escaped one. -/
  broken : Bool
  /-- The first break. An escaped one contributes nothing. -/
  first : List Char
  /-- Further breaks. -/
  more : List Char

namespace Gap

/-- No gap at all. -/
def none : Gap :=
  ⟨[], false, [], []⟩

/-- A gap that begins with an escaped break. -/
def escaped : Gap :=
  ⟨[], true, [], []⟩

/-- One more blank. Blanks beside a break do not count. -/
def addBlank (gap : Gap) (c : Char) : Gap :=
  if gap.broken then gap else { gap with blanks := gap.blanks ++ [c] }

/-- One more break. -/
def addBreak (gap : Gap) (text : List Char) : Gap :=
  if gap.broken then { gap with more := gap.more ++ text } else ⟨[], true, text, []⟩

/-- What the gap contributes to the scalar. A single line feed is a blank, and the first of several
is dropped. -/
def text (gap : Gap) : List Char :=
  if !gap.broken then gap.blanks
  else if gap.first = ['\n'] then if gap.more.isEmpty then [' '] else gap.more
  else gap.first ++ gap.more

/-! ## Reading -/

/-- The rest of a gap, and the cursor behind it. In a line after the first, a tab before the column
`limit` is refused. -/
def readFrom (limit : Nat) : List Char → Position → Gap → Option (Gap × Cursor)
  | [], place, gap => some (gap, ⟨[], place⟩)
  | '\r' :: '\n' :: rest, place, gap => readFrom limit rest (place.newLine 2) (gap.addBreak ['\n'])
  | c :: rest, place, gap =>
    if isBlank c then
      if c = '\t' && gap.broken && place.column < limit then Option.none
      else readFrom limit rest (place.skip 1) (gap.addBlank c)
    else if isBreak c then readFrom limit rest (place.newLine 1) (gap.addBreak (breakText c))
    else some (gap, ⟨c :: rest, place⟩)

/-- The rest of a gap at a cursor. -/
def read (limit : Nat) (gap : Gap) (cursor : Cursor) : Option (Gap × Cursor) :=
  readFrom limit cursor.rest cursor.place gap

end Gap

end AppBoundary.Yaml
