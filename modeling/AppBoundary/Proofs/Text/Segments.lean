-- The pieces of a text between separators, and its segments: what stands in them,
-- when there are none, and how they are joined again.
import AppBoundary.Text.Split

namespace AppBoundary.Text

variable {sep : Char}

/-! ## Pieces -/

theorem splitChars_eq_splitOn (sep : Char) (cs : List Char) : splitChars sep cs = cs.splitOn sep := by
  induction cs with
  | nil => rfl
  | cons c rest ih =>
    rw [splitChars, List.splitOn_cons_eq_if_modifyHead, ← ih]
    simp only [beq_iff_eq]
    split
    · rfl
    · split
      · rename_i hnil
        exact absurd hnil (splitChars_ne_nil sep rest)
      · rename_i hcons
        rw [hcons, List.modifyHead_cons]

/-- Every character but the separator stands in a piece. -/
theorem exists_mem_splitChars {cs : List Char} {c : Char} (h : c ∈ cs) (hc : c ≠ sep) :
    ∃ piece ∈ splitChars sep cs, c ∈ piece := by
  induction cs with
  | nil => cases h
  | cons first rest ih =>
    unfold splitChars
    rcases List.mem_cons.1 h with rfl | hrest
    · rw [if_neg hc]
      split <;> simp
    · obtain ⟨piece, hpiece, hmem⟩ := ih hrest
      split
      · exact ⟨piece, List.mem_cons_of_mem _ hpiece, hmem⟩
      · split
        · rename_i hnil
          exact absurd hnil (splitChars_ne_nil sep rest)
        · rename_i hcons
          rw [hcons] at hpiece
          rcases List.mem_cons.1 hpiece with rfl | hlater
          · exact ⟨_, List.mem_cons_self, List.mem_cons_of_mem _ hmem⟩
          · exact ⟨piece, List.mem_cons_of_mem _ hlater, hmem⟩

/-- No separator stands in a piece. -/
theorem not_mem_of_mem_splitChars {cs piece : List Char} (h : piece ∈ splitChars sep cs) :
    sep ∉ piece := by
  induction cs generalizing piece with
  | nil =>
    rw [splitChars, List.mem_singleton] at h
    simp [h]
  | cons c rest ih =>
    unfold splitChars at h
    split at h
    · rcases List.mem_cons.1 h with rfl | hrest
      · exact List.not_mem_nil
      · exact ih hrest
    · rename_i hc
      split at h
      · rename_i hnil
        exact absurd hnil (splitChars_ne_nil sep rest)
      · rename_i first pieces hpieces
        rw [hpieces] at ih
        rcases List.mem_cons.1 h with rfl | hlater
        · rw [List.mem_cons, not_or]
          exact ⟨fun heq => hc heq.symm, ih List.mem_cons_self⟩
        · exact ih (List.mem_cons_of_mem _ hlater)

/-! ## Texts without segments -/

/-- All pieces are empty when the text holds nothing but separators. -/
theorem splitChars_all_nil_iff {cs : List Char} :
    (∀ piece ∈ splitChars sep cs, piece = []) ↔ ∀ c ∈ cs, c = sep := by
  induction cs with
  | nil => simp [splitChars]
  | cons c rest ih =>
    unfold splitChars
    by_cases h : c = sep
    · simp [h, ih]
    · rw [if_neg h]
      split <;> simp [h]

theorem segments_eq_nil_iff {text : String} :
    segments sep text = [] ↔ ∀ c ∈ text.toList, c = sep := by
  simp only [segments, List.map_eq_nil_iff, List.filter_eq_nil_iff, Bool.not_eq_true',
    Bool.not_eq_false, List.isEmpty_iff, splitChars_all_nil_iff]

/-! ## Segments joined -/

/-- The segments are the pieces that are not empty. -/
theorem segments_eq_filter (sep : Char) (text : String) :
    segments sep text = ((splitChars sep text.toList).map String.ofList).filter (· ≠ "") := by
  rw [segments, List.filter_map]
  refine congrArg (List.map String.ofList) (List.filter_congr ?_)
  intro piece _
  cases piece <;> simp [String.ofList_eq_empty_iff]

/-- A separator between two texts keeps their segments apart. -/
theorem segments_append (sep : Char) (text other : String) :
    segments sep (text ++ String.singleton sep ++ other) =
      segments sep text ++ segments sep other := by
  have hlist : (text ++ String.singleton sep ++ other).toList =
      text.toList ++ sep :: other.toList := by simp
  rw [segments, hlist, splitChars_eq_splitOn, List.splitOn_append_cons_self, List.filter_append,
    List.map_append, ← splitChars_eq_splitOn, ← splitChars_eq_splitOn, segments, segments]

/-- Joined texts without separators are cut where they were joined. -/
theorem segments_intercalate {texts : List String} (h : ∀ text ∈ texts, sep ∉ text.toList) :
    segments sep ((String.singleton sep).intercalate texts) = texts.filter (· ≠ "") := by
  cases texts with
  | nil => rfl
  | cons text texts =>
    have hpieces : splitChars sep ((String.singleton sep).intercalate (text :: texts)).toList =
        (text :: texts).map String.toList := by
      rw [String.toList_intercalate, String.toList_singleton, splitChars_eq_splitOn]
      exact List.splitOn_intercalate sep (by simpa using h) (by simp)
    rw [segments_eq_filter, hpieces, List.map_map]
    simp [Function.comp_def]

/-- A text is its pieces with separators between them. -/
theorem intercalate_splitChars (sep : Char) (text : String) :
    (String.singleton sep).intercalate ((splitChars sep text.toList).map String.ofList) = text := by
  apply String.toList_inj.1
  rw [String.toList_intercalate, List.map_map, splitChars_eq_splitOn]
  simp [Function.comp_def, List.intercalate_splitOn]

theorem ne_empty_of_mem_segments {text segment : String} (h : segment ∈ segments sep text) :
    segment ≠ "" := by
  rw [segments_eq_filter, List.mem_filter] at h
  simpa using h.2

theorem not_mem_of_mem_segments {text segment : String} (h : segment ∈ segments sep text) :
    sep ∉ segment.toList := by
  rw [segments_eq_filter, List.mem_filter, List.mem_map] at h
  obtain ⟨⟨piece, hpiece, rfl⟩, -⟩ := h
  rw [String.toList_ofList]
  exact not_mem_of_mem_splitChars hpiece

end AppBoundary.Text
