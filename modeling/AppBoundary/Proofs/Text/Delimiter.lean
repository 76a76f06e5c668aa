-- Texts cut at a delimiter: what stands before the first one, and what stands
-- behind the last one.
import Mathlib.Data.List.TakeWhile

namespace AppBoundary.Text

variable {delimiter : Char} {text : List Char}

theorem bne_of_not_mem (h : delimiter ∉ text) : ∀ c ∈ text, (c != delimiter) = true := by
  intro c hc
  have : c ≠ delimiter := fun heq => h (heq ▸ hc)
  simpa using this

/-! ## The text before the first delimiter -/

theorem not_mem_takeWhile : delimiter ∉ text.takeWhile (· != delimiter) := by
  intro hmem
  simpa using List.mem_takeWhile_imp hmem

/-- A text is its own start when no delimiter stands in it. -/
theorem takeWhile_eq_self_iff : text.takeWhile (· != delimiter) = text ↔ delimiter ∉ text := by
  constructor
  · intro h
    exact h ▸ not_mem_takeWhile
  · intro h
    exact List.takeWhile_eq_self_iff.2 (bne_of_not_mem h)

/-- What stands behind a delimiter plays no part in the text before the first one. -/
theorem takeWhile_append_delimiter (rest : List Char) :
    (text ++ delimiter :: rest).takeWhile (· != delimiter) = text.takeWhile (· != delimiter) := by
  induction text with
  | nil => simp
  | cons c text ih =>
    rw [List.cons_append, List.takeWhile_cons, List.takeWhile_cons, ih]

/-- A text is cut at its first delimiter in one way. -/
theorem append_delimiter_inj {other rest behind : List Char} (htext : delimiter ∉ text)
    (hother : delimiter ∉ other) (h : text ++ delimiter :: rest = other ++ delimiter :: behind) :
    text = other ∧ rest = behind := by
  have hstart := congrArg (List.takeWhile (· != delimiter)) h
  rw [takeWhile_append_delimiter, takeWhile_append_delimiter, takeWhile_eq_self_iff.2 htext,
    takeWhile_eq_self_iff.2 hother] at hstart
  subst hstart
  rw [List.append_cancel_left_eq, List.cons.injEq] at h
  exact ⟨rfl, h.2⟩

/-! ## The text behind the last delimiter -/

/-- A text with a delimiter is cut at the last one. -/
theorem exists_last_delimiter (h : delimiter ∈ text) :
    ∃ front behind, delimiter ∉ behind ∧ text = front ++ delimiter :: behind := by
  obtain ⟨behind, front, hsplit, hbehind⟩ := List.eq_append_cons_of_mem (List.mem_reverse.2 h)
  refine ⟨front.reverse, behind.reverse, by simpa using hbehind, ?_⟩
  rw [← List.reverse_inj, hsplit]
  simp

theorem exists_append_singleton_append {text : String} (h : delimiter ∈ text.toList) :
    ∃ front behind : String, delimiter ∉ behind.toList ∧
      text = front ++ String.singleton delimiter ++ behind := by
  obtain ⟨front, behind, hbehind, hcut⟩ := exists_last_delimiter h
  refine ⟨String.ofList front, String.ofList behind, by simpa using hbehind, ?_⟩
  apply String.toList_inj.1
  rw [hcut]
  simp

end AppBoundary.Text
