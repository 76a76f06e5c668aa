-- Lists in one text. Joined segments are split where they were joined, and two
-- texts give the same list exactly when they differ in nothing but separators that
-- lead, trail or repeat one another.
import AppBoundary.Proofs.Text.Segments
import AppBoundary.Settings

namespace AppBoundary.Settings

/-! ## Splitting and joining -/

theorem splitList_append (text other : String) :
    splitList (text ++ ":" ++ other) = splitList text ++ splitList other :=
  Text.segments_append ':' text other

theorem splitList_join {texts : List String} (h : ∀ text ∈ texts, ':' ∉ text.toList) :
    splitList (":".intercalate texts) = texts.filter (· ≠ "") :=
  Text.segments_intercalate h

theorem ne_empty_of_mem_splitList {text segment : String} (h : segment ∈ splitList text) :
    segment ≠ "" :=
  Text.ne_empty_of_mem_segments h

theorem not_mem_of_mem_splitList {text segment : String} (h : segment ∈ splitList text) :
    ':' ∉ segment.toList :=
  Text.not_mem_of_mem_segments h

theorem splitList_leading (text : String) : splitList (":" ++ text) = splitList text := by
  have happend := splitList_append "" text
  rwa [String.empty_append, show splitList "" = [] from rfl, List.nil_append] at happend

theorem splitList_trailing (text : String) : splitList (text ++ ":") = splitList text := by
  have happend := splitList_append text ""
  rwa [String.append_empty, show splitList "" = [] from rfl, List.append_nil] at happend

/-- A list is its own list again when its segments are joined. -/
theorem splitList_join_splitList (text : String) :
    splitList (":".intercalate (splitList text)) = splitList text := by
  rw [splitList_join fun segment => not_mem_of_mem_splitList, List.filter_eq_self]
  intro segment hsegment
  simpa using ne_empty_of_mem_splitList hsegment

/-! ## Texts that differ in separators -/

/-- Two texts that differ in nothing but separators: one leads or trails, or two stand where one
does. -/
inductive SameButSeparators : String → String → Prop
  | refl (text : String) : SameButSeparators text text
  | symm {text other : String} : SameButSeparators text other → SameButSeparators other text
  | trans {text between other : String} : SameButSeparators text between →
      SameButSeparators between other → SameButSeparators text other
  | leading (text : String) : SameButSeparators (":" ++ text) text
  | trailing (text : String) : SameButSeparators (text ++ ":") text
  | repeated (front back : String) : SameButSeparators (front ++ "::" ++ back) (front ++ ":" ++ back)

theorem two_separators (front back : String) :
    front ++ "::" ++ back = front ++ ":" ++ (":" ++ back) := by
  have htwo : "::" = ":" ++ ":" := rfl
  simp only [htwo, String.append_assoc]

namespace SameButSeparators

variable {text other : String}

theorem splitList_eq (h : SameButSeparators text other) : splitList text = splitList other := by
  induction h with
  | refl => rfl
  | symm _ ih => exact ih.symm
  | trans _ _ first second => exact first.trans second
  | leading text => exact splitList_leading text
  | trailing text => exact splitList_trailing text
  | repeated front back => rw [two_separators, splitList_append, splitList_leading, splitList_append]

/-- A first segment in front makes no difference to texts that differ in separators. -/
theorem behind (first : String) (h : SameButSeparators text other) :
    SameButSeparators (first ++ ":" ++ text) (first ++ ":" ++ other) := by
  induction h with
  | refl => exact .refl _
  | symm _ ih => exact ih.symm
  | trans _ _ ihFirst ihSecond => exact ihFirst.trans ihSecond
  | leading text =>
    rw [← two_separators]
    exact .repeated first text
  | trailing text =>
    rw [← String.append_assoc]
    exact .trailing _
  | repeated front back =>
    simp only [← String.append_assoc]
    exact .repeated (first ++ ":" ++ front) back

/-- Joining puts one text in front of the others, and a separator behind it if there are any. -/
theorem join_cons (first : String) (rest : List String) :
    SameButSeparators (":".intercalate (first :: rest)) (first ++ ":" ++ ":".intercalate rest) := by
  cases rest with
  | nil =>
    rw [String.intercalate_singleton, String.intercalate_nil, String.append_empty]
    exact (trailing first).symm
  | cons second rest =>
    rw [String.intercalate_cons_cons]
    exact .refl _

/-- Empty texts among joined ones are nothing but more separators. -/
theorem join_filter (texts : List String) :
    SameButSeparators (":".intercalate texts) (":".intercalate (texts.filter (· ≠ ""))) := by
  induction texts with
  | nil => exact .refl _
  | cons first rest ih =>
    have hfirst := (join_cons first rest).trans (ih.behind first)
    by_cases hempty : first = ""
    · rw [List.filter_cons_of_neg (by simpa using hempty)]
      rw [hempty, String.empty_append] at hfirst
      exact hempty ▸ hfirst.trans (leading _)
    · rw [List.filter_cons_of_pos (by simpa using hempty)]
      exact hfirst.trans (join_cons first _).symm

end SameButSeparators

/-- Texts have the same list when they differ in separators alone, and not otherwise. -/
theorem splitList_eq_iff {text other : String} :
    splitList text = splitList other ↔ SameButSeparators text other := by
  constructor
  · intro h
    have hjoin : ∀ text, SameButSeparators text (":".intercalate (splitList text)) := by
      intro text
      let pieces := (Text.splitChars ':' text.toList).map String.ofList
      have hwhole : ":".intercalate pieces = text := Text.intercalate_splitChars ':' text
      have hlist : splitList text = pieces.filter (· ≠ "") := Text.segments_eq_filter ':' text
      have hpieces := SameButSeparators.join_filter pieces
      rwa [hwhole, ← hlist] at hpieces
    exact (hjoin text).trans (h ▸ (hjoin other).symm)
  · exact SameButSeparators.splitList_eq

end AppBoundary.Settings
