-- Texts cut at a separator, and texts cut into lines.

namespace AppBoundary.Text

/-! ## Separators -/

/-- The pieces between the separators: one more piece than there are separators. -/
def splitChars (sep : Char) : List Char → List (List Char)
  | [] => [[]]
  | c :: rest =>
    if c = sep then [] :: splitChars sep rest
    else
      match splitChars sep rest with
      | [] => [[c]]
      | piece :: pieces => (c :: piece) :: pieces

theorem splitChars_ne_nil (sep : Char) (cs : List Char) : splitChars sep cs ≠ [] := by
  cases cs with
  | nil => simp [splitChars]
  | cons c rest =>
    unfold splitChars
    split
    · simp
    · split <;> simp

/-- The segments of a list option that are not empty, in order. -/
def segments (sep : Char) (text : String) : List String :=
  ((splitChars sep text.toList).filter (!·.isEmpty)).map String.ofList

/-! ## Lines -/

/-- A line without the carriage return that belongs to its line feed. -/
def dropReturn (line : List Char) : List Char :=
  if line.getLast? = some '\r' then line.dropLast else line

/-- The lines among the pieces between line feeds. The last piece has no line feed behind it: it
keeps a carriage return, and it is no line when it is empty. -/
def linesOfPieces : List (List Char) → List (List Char)
  | [] => []
  | [last] => if last.isEmpty then [] else [last]
  | line :: rest => dropReturn line :: linesOfPieces rest

/-- The lines of a text, each ended by a line feed or by a carriage return and a line feed. -/
def lines (text : String) : List String :=
  (linesOfPieces (splitChars '\n' text.toList)).map String.ofList

end AppBoundary.Text
