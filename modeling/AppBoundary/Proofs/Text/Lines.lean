-- Lines cut off a text one after the other. A line ends in a line feed, which takes
-- a carriage return in front of it along, and the last line may have no end.
import AppBoundary.Proofs.Text.Segments

namespace AppBoundary.Text

/-! ## Lines as lists of characters -/

theorem linesOfPieces_cons {line : List Char} {rest : List (List Char)} (h : rest ≠ []) :
    linesOfPieces (line :: rest) = dropReturn line :: linesOfPieces rest := by
  cases rest with
  | nil => exact absurd rfl h
  | cons => rfl

/-- The first line feed ends the first line. -/
theorem linesOfPieces_append {line : List Char} (h : '\n' ∉ line) (rest : List Char) :
    linesOfPieces (splitChars '\n' (line ++ '\n' :: rest)) =
      dropReturn line :: linesOfPieces (splitChars '\n' rest) := by
  rw [splitChars_eq_splitOn, List.splitOn_append_cons_self_of_not_mem h, ← splitChars_eq_splitOn,
    linesOfPieces_cons (splitChars_ne_nil _ _)]

theorem dropReturn_of_ne {line : List Char} (h : line.getLast? ≠ some '\r') :
    dropReturn line = line :=
  if_neg h

theorem dropReturn_append (line : List Char) : dropReturn (line ++ ['\r']) = line := by
  rw [dropReturn, if_pos (by simp), List.dropLast_concat]

/-! ## Lines as texts -/

/-- The two ways to end a line. -/
def lineEnds : List String :=
  ["\n", "\r\n"]

/-- A text that can stand on a line: it has no line feed, and it keeps its last character in front of
one. -/
structure FitsLine (text : String) : Prop where
  noLineFeed : '\n' ∉ text.toList
  noReturn : text.toList.getLast? ≠ some '\r'

theorem lines_append_end {line ending : String} (hline : FitsLine line) (hending : ending ∈ lineEnds)
    (rest : String) : lines (line ++ ending ++ rest) = line :: lines rest := by
  simp only [lineEnds, List.mem_cons, List.not_mem_nil, or_false] at hending
  rcases hending with rfl | rfl
  · have hlist : (line ++ "\n" ++ rest).toList = line.toList ++ '\n' :: rest.toList := by simp
    rw [lines, hlist, linesOfPieces_append hline.noLineFeed, dropReturn_of_ne hline.noReturn,
      List.map_cons, String.ofList_toList, lines]
  · have hlist : (line ++ "\r\n" ++ rest).toList =
        (line.toList ++ ['\r']) ++ '\n' :: rest.toList := by simp
    have hreturn : '\n' ∉ line.toList ++ ['\r'] := by simpa using hline.noLineFeed
    rw [lines, hlist, linesOfPieces_append hreturn, dropReturn_append, List.map_cons,
      String.ofList_toList, lines]

/-- A text without a line feed is one line, unless it is empty. -/
theorem lines_of_no_lineFeed {text : String} (h : '\n' ∉ text.toList) :
    lines text = if text = "" then [] else [text] := by
  rw [lines, splitChars_eq_splitOn, List.splitOn_eq_singleton h, linesOfPieces]
  simp only [List.isEmpty_iff, String.toList_eq_nil_iff]
  split <;> simp

/-- A text with a line feed begins with a line and its end. -/
theorem exists_first_line {text : String} (h : '\n' ∈ text.toList) :
    ∃ line ending rest, text = line ++ ending ++ rest ∧ ending ∈ lineEnds ∧ '\n' ∉ line.toList ∧
      lines text = line :: lines rest := by
  obtain ⟨front, rest, hsplit, hfront⟩ := List.eq_append_cons_of_mem h
  have hlines : lines text = String.ofList (dropReturn front) :: lines (String.ofList rest) := by
    rw [lines, hsplit, linesOfPieces_append hfront, List.map_cons, lines, String.toList_ofList]
  by_cases hreturn : front.getLast? = some '\r'
  · obtain ⟨line, rfl⟩ := List.getLast?_eq_some_iff.1 hreturn
    rw [dropReturn_append] at hlines
    refine ⟨String.ofList line, "\r\n", String.ofList rest, ?_, by decide, ?_, hlines⟩
    · apply String.toList_inj.1
      simp [hsplit]
    · simp only [List.mem_append, not_or] at hfront
      simpa using hfront.1
  · rw [dropReturn_of_ne hreturn] at hlines
    refine ⟨String.ofList front, "\n", String.ofList rest, ?_, by decide, ?_, hlines⟩
    · apply String.toList_inj.1
      simp [hsplit]
    · simpa using hfront

/-- A text consists of lines, each with its end behind it. Behind the last line the end may be
missing, if something stands on that line. -/
inductive HasLines : (lines : List String) → (text : String) → Prop
  | nil : HasLines [] ""
  | cons {line ending rest : String} {lines : List String} : ending ∈ lineEnds →
      '\n' ∉ line.toList → HasLines lines rest → HasLines (line :: lines) (line ++ ending ++ rest)
  | last {line : String} : line ≠ "" → '\n' ∉ line.toList → HasLines [line] line

theorem hasLines_lines (text : String) : HasLines (lines text) text := by
  -- What stands behind the first line is shorter than the whole text.
  induction hlength : text.toList.length using Nat.strongRecOn generalizing text with
  | ind length ih =>
    by_cases hfeed : '\n' ∈ text.toList
    · obtain ⟨line, ending, rest, rfl, hending, hline, hlines⟩ := exists_first_line hfeed
      have hshorter : rest.toList.length < length := by
        have hpos : ∀ ending ∈ lineEnds, 0 < ending.toList.length := by decide
        have := hpos ending hending
        rw [String.toList_append, String.toList_append, List.length_append,
          List.length_append] at hlength
        omega
      rw [hlines]
      exact .cons hending hline (ih _ hshorter rest rfl)
    · rw [lines_of_no_lineFeed hfeed]
      split
      · rename_i hempty
        exact hempty ▸ .nil
      · exact .last ‹_› hfeed

theorem HasLines.not_mem {lines : List String} {text : String} (h : HasLines lines text) :
    ∀ line ∈ lines, '\n' ∉ line.toList := by
  induction h with
  | nil => simp
  | cons _ hline _ ih => exact List.forall_mem_cons.2 ⟨hline, ih⟩
  | last _ hline => simpa using hline

end AppBoundary.Text
