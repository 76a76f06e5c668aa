-- What a lowercase form keeps of its text. A dot and a star have no other case
-- and no letter becomes one, so a form is cut at a dot just where its text is.
import AppBoundary.Proofs.Text.Caseless

namespace AppBoundary.Text

/-! ## Marks -/

/-- A character in front of the ASCII capitals, such as a dot or a star. -/
def IsMark (c : Char) : Prop :=
  0 < c.toNat ∧ c.toNat < 65

instance (c : Char) : Decidable (IsMark c) :=
  inferInstanceAs (Decidable (_ ∧ _))

/-- Every lowercase form of the table lies beyond the marks. -/
theorem le_lower_of_mem_runs : ∀ run ∈ lowercaseRuns, 65 ≤ run.lower := by
  decide +kernel

theorem ofNat_ne_mark {n : Nat} (hn : 65 ≤ n) {mark : Char} (hmark : IsMark mark) :
    Char.ofNat n ≠ mark := by
  rintro rfl
  unfold IsMark at hmark
  by_cases hvalid : n.isValidChar
  · rw [Char.ofNat, dif_pos hvalid] at hmark
    exact absurd hmark.2 (Nat.not_lt.2 hn)
  · rw [Char.ofNat, dif_neg hvalid] at hmark
    exact absurd hmark.1 (Nat.lt_irrefl 0)

theorem toLower_eq_mark_iff {c mark : Char} (hmark : IsMark mark) :
    c.toLower = mark ↔ c = mark := by
  by_cases hc : IsCapital c
  · have hlower := toNat_toLower_of_capital hc
    unfold IsCapital at hc
    unfold IsMark at hmark
    constructor
    · rintro rfl
      omega
    · rintro rfl
      omega
  · rw [toLower_of_not_capital hc]

/-- A mark is in the lowercase form of itself and of no other character. -/
theorem mem_lowerChar_iff {c mark : Char} (hmark : IsMark mark) :
    mark ∈ lowerChar c ↔ c = mark := by
  unfold lowerChar
  split
  · rw [List.mem_singleton, eq_comm, toLower_eq_mark_iff hmark]
  · rename_i hascii
    have hne : c ≠ mark := by
      rintro rfl
      unfold IsMark at hmark
      omega
    refine iff_of_false ?_ hne
    split
    · simp only [List.mem_cons, List.not_mem_nil, or_false, not_or]
      constructor <;> rintro rfl <;> exact absurd hmark (by decide)
    · split
      · rename_i run hrun
        have hlower := le_lower_of_mem_runs run (List.mem_of_find?_eq_some hrun)
        have happly : 65 ≤ run.apply c.toNat := Nat.le_trans hlower (Nat.le_add_right _ _)
        rw [List.mem_singleton]
        exact (ofNat_ne_mark happly hmark).symm
      · rw [List.mem_singleton]
        exact hne.symm

theorem lowerChar_of_mark {mark : Char} (hmark : IsMark mark) : lowerChar mark = [mark] := by
  have hlower : mark.toLower = mark := (toLower_eq_mark_iff hmark).2 rfl
  unfold IsMark at hmark
  rw [lowerChar, if_pos (by omega), hlower]

/-- No character disappears. -/
theorem lowerChar_ne_nil (c : Char) : lowerChar c ≠ [] := by
  unfold lowerChar
  split
  · simp
  · split
    · simp
    · split <;> simp

/-! ## Lists of characters cut at a mark -/

theorem flatMap_lowerChar_eq_nil_iff {text : List Char} :
    text.flatMap lowerChar = [] ↔ text = [] := by
  rw [List.flatMap_eq_nil_iff, List.eq_nil_iff_forall_not_mem]
  exact forall_congr' fun c => imp_congr_right fun _ => iff_of_false (lowerChar_ne_nil c) id

/-- A mark in a lowercase form stands for a mark in the text, and cuts both into parts that belong
together. -/
theorem flatMap_lowerChar_eq_append_mark {mark : Char} (hmark : IsMark mark)
    {text before after : List Char} (h : text.flatMap lowerChar = before ++ mark :: after) :
    ∃ first rest, text = first ++ mark :: rest ∧ first.flatMap lowerChar = before ∧
      rest.flatMap lowerChar = after := by
  induction text generalizing before with
  | nil => simp at h
  | cons c text ih =>
    rw [List.flatMap_cons, List.append_eq_append_iff] at h
    rcases h with ⟨inner, rfl, hrest⟩ | ⟨inner, hc, hrest⟩
    · obtain ⟨first, rest, rfl, rfl, rfl⟩ := ih hrest
      exact ⟨c :: first, rest, rfl, rfl, rfl⟩
    · cases inner with
      | nil =>
        -- The form of the character ends in front of the mark.
        have hstart : text.flatMap lowerChar = [] ++ mark :: after := hrest.symm
        obtain ⟨first, rest, rfl, hfirst, rfl⟩ := ih hstart
        refine ⟨c :: first, rest, rfl, ?_, rfl⟩
        rw [List.flatMap_cons, hfirst, hc, List.append_nil, List.append_nil]
      | cons d inner =>
        obtain ⟨rfl, rfl⟩ := List.cons.inj hrest
        have hcmark : c = mark := (mem_lowerChar_iff hmark).1 (hc ▸ by simp)
        rw [hcmark, lowerChar_of_mark hmark] at hc
        obtain ⟨rfl, rfl⟩ : before = [] ∧ inner = [] := by
          simpa [List.singleton_eq_append_iff] using hc
        exact ⟨[], text, by rw [hcmark]; rfl, rfl, rfl⟩

/-- Marks are the lowercase form of themselves and of nothing else. -/
theorem flatMap_lowerChar_eq_marks_iff {marks : List Char} (hmarks : ∀ mark ∈ marks, IsMark mark)
    {text : List Char} : text.flatMap lowerChar = marks ↔ text = marks := by
  induction marks generalizing text with
  | nil => exact flatMap_lowerChar_eq_nil_iff
  | cons mark marks ih =>
    obtain ⟨hmark, hrest⟩ := List.forall_mem_cons.1 hmarks
    constructor
    · intro h
      have hstart : text.flatMap lowerChar = [] ++ mark :: marks := h
      obtain ⟨first, rest, rfl, hfirst, hafter⟩ := flatMap_lowerChar_eq_append_mark hmark hstart
      rw [flatMap_lowerChar_eq_nil_iff.1 hfirst, (ih hrest).1 hafter, List.nil_append]
    · rintro rfl
      rw [List.flatMap_cons, lowerChar_of_mark hmark, (ih hrest).2 rfl, List.singleton_append]

/-! ## Texts cut at a mark -/

theorem lower_append (first second : String) :
    lower (first ++ second) = lower first ++ lower second := by
  simp [lower]

theorem lower_eq_nil_iff {text : String} : lower text = [] ↔ text = "" := by
  rw [lower, flatMap_lowerChar_eq_nil_iff, String.toList_eq_nil_iff]

theorem mem_lower_iff {mark : Char} (hmark : IsMark mark) {text : String} :
    mark ∈ lower text ↔ mark ∈ text.toList := by
  simp only [lower, List.mem_flatMap, mem_lowerChar_iff hmark, exists_eq_right]

theorem exists_of_lower_eq_append_mark {mark : Char} (hmark : IsMark mark) {text : String}
    {before after : List Char} (h : lower text = before ++ mark :: after) :
    ∃ first rest, text = first ++ String.singleton mark ++ rest ∧ lower first = before ∧
      lower rest = after := by
  obtain ⟨first, rest, htext, hfirst, hrest⟩ := flatMap_lowerChar_eq_append_mark hmark h
  refine ⟨String.ofList first, String.ofList rest, ?_, ?_, ?_⟩
  · apply String.toList_inj.1
    simp [htext]
  · rw [lower, String.toList_ofList, hfirst]
  · rw [lower, String.toList_ofList, hrest]

/-- A text that differs in letter case alone from one that ends in marks ends in the same marks. -/
theorem exists_ending_of_lower_eq {ending : String} (hending : ∀ mark ∈ ending.toList, IsMark mark)
    {text rest : String} (h : lower text = lower (rest ++ ending)) :
    ∃ other, text = other ++ ending ∧ lower other = lower rest := by
  have hmarks : lower ending = ending.toList := (flatMap_lowerChar_eq_marks_iff hending).2 rfl
  rw [lower_append, hmarks] at h
  cases hlist : ending.toList with
  | nil =>
    rw [String.toList_eq_nil_iff] at hlist
    subst hlist
    exact ⟨text, by simp, by simpa using h⟩
  | cons mark marks =>
    rw [hlist] at hending h
    obtain ⟨hmark, hrest⟩ := List.forall_mem_cons.1 hending
    obtain ⟨first, behind, htext, hfirst, hbehind⟩ := flatMap_lowerChar_eq_append_mark hmark h
    rw [flatMap_lowerChar_eq_marks_iff hrest] at hbehind
    refine ⟨String.ofList first, String.toList_inj.1 ?_, ?_⟩
    · simp [htext, hlist, hbehind]
    · rw [lower, String.toList_ofList, hfirst]

end AppBoundary.Text
