-- Numerals and their numbers. What is read as a number is what digits write, up to
-- the greatest number of thirty-two bits, and the decimal spelling of a number is a
-- numeral of it.
import AppBoundary.Text.Numeral

namespace AppBoundary.Text

/-! ## Digits -/

theorem digit?_of_isDigit {c : Char} (h : c.isDigit = true) :
    digit? c = some (c.toNat - '0'.toNat) := by
  rw [Char.isDigit, Bool.and_eq_true, decide_eq_true_eq, decide_eq_true_eq] at h
  have hrange : '0' ≤ c ∧ c ≤ '9' := h
  rw [digit?, if_pos hrange]

theorem mapM_digit?_of_digits {cs : List Char} (h : ∀ c ∈ cs, c.isDigit = true) :
    cs.mapM digit? = some (cs.map fun c => c.toNat - '0'.toNat) := by
  induction cs with
  | nil => rfl
  | cons c rest ih =>
    obtain ⟨hc, hrest⟩ := List.forall_mem_cons.1 h
    rw [List.mapM_cons, digit?_of_isDigit hc, ih hrest]
    rfl

/-- The value of digits, as the library folds them. -/
theorem ofDigits_map_digits (cs : List Char) :
    ofDigits 10 (cs.map fun c => c.toNat - '0'.toNat) = Nat.ofDigitChars 10 cs 0 := by
  rw [ofDigits, List.foldl_map, Nat.ofDigitChars_eq_foldl]
  simp only [Nat.mul_comm]

theorem isDigit_of_digit? {c : Char} {d : Nat} (h : digit? c = some d) : c.isDigit = true := by
  unfold digit? at h
  split at h
  · rename_i hrange
    rw [Char.isDigit, Bool.and_eq_true, decide_eq_true_eq, decide_eq_true_eq]
    exact hrange
  · cases h

theorem isDigit_of_mapM_digit? {cs : List Char} {digits : List Nat}
    (h : cs.mapM digit? = some digits) : ∀ c ∈ cs, c.isDigit = true := by
  induction cs generalizing digits with
  | nil => simp
  | cons c rest ih =>
    simp only [List.mapM_cons, Option.bind_eq_bind, Option.bind_eq_some_iff] at h
    obtain ⟨d, hd, others, hothers, -⟩ := h
    exact List.forall_mem_cons.2 ⟨isDigit_of_digit? hd, ih hothers⟩

/-! ## Numerals -/

/-- A decimal numeral of a number: digits that write it, at least one, with a plus sign in front of
them or without. -/
def IsNumeral (text : String) (n : Nat) : Prop :=
  ∃ digits : List Char, (text.toList = digits ∨ text.toList = '+' :: digits) ∧ digits ≠ [] ∧
    (∀ c ∈ digits, c.isDigit = true) ∧ Nat.ofDigitChars 10 digits 0 = n

theorem natural?_eq_some_iff {cs : List Char} {n : Nat} :
    natural? cs = some n ↔
      cs ≠ [] ∧ (∀ c ∈ cs, c.isDigit = true) ∧ Nat.ofDigitChars 10 cs 0 = n := by
  unfold natural?
  split
  · rename_i hempty
    simp [List.isEmpty_iff.1 hempty]
  · rename_i hfull
    rw [List.isEmpty_iff] at hfull
    constructor
    · intro h
      obtain ⟨digits, hdigits, -⟩ := Option.map_eq_some_iff.1 h
      have hall := isDigit_of_mapM_digit? hdigits
      rw [mapM_digit?_of_digits hall, Option.map_some, ofDigits_map_digits, Option.some.injEq] at h
      exact ⟨hfull, hall, h⟩
    · rintro ⟨-, hall, rfl⟩
      rw [mapM_digit?_of_digits hall, Option.map_some, ofDigits_map_digits]

/-- A text is read as a number when it is a numeral of it and the number has at most thirty-two
bits. -/
theorem word?_eq_some_iff {text : String} {n : Nat} :
    word? text = some n ↔ IsNumeral text n ∧ n < wordLimit := by
  unfold word?
  rw [Option.filter_eq_some_iff, decide_eq_true_eq, natural?_eq_some_iff]
  refine and_congr_left fun _ => ?_
  split
  · rename_i rest hplus
    constructor
    · exact fun h => ⟨rest, Or.inr hplus, h⟩
    · rintro ⟨digits, hplain | hsigned, h⟩
      · have hdigit := h.2.1 '+' (by rw [← hplain, hplus]; exact List.mem_cons_self)
        exact absurd hdigit (by decide)
      · rw [hplus, List.cons.injEq] at hsigned
        rwa [hsigned.2]
  · rename_i hnone
    constructor
    · exact fun h => ⟨_, Or.inl rfl, h⟩
    · rintro ⟨digits, hplain | hsigned, h⟩
      · rwa [hplain]
      · exact absurd hsigned (hnone digits)

/-! ## Decimal spellings -/

theorem isDigit_of_mem_decimal {n : Nat} : ∀ c ∈ (decimal n).toList, c.isDigit = true := by
  intro c hc
  rw [decimal, String.toList_ofList] at hc
  exact Nat.isDigit_of_mem_toDigits (by decide) (by decide) hc

theorem decimal_ne_empty (n : Nat) : (decimal n).toList ≠ [] := by
  rw [decimal, String.toList_ofList]
  exact Nat.toDigits_ne_nil

theorem isNumeral_decimal (n : Nat) : IsNumeral (decimal n) n := by
  refine ⟨_, Or.inl rfl, decimal_ne_empty n, isDigit_of_mem_decimal, ?_⟩
  rw [decimal, String.toList_ofList, Nat.ofDigitChars_ten_toDigits]

/-- The decimal spelling of a number of at most thirty-two bits is read as that number. -/
theorem word?_decimal {n : Nat} (h : n < wordLimit) : word? (decimal n) = some n :=
  word?_eq_some_iff.2 ⟨isNumeral_decimal n, h⟩

end AppBoundary.Text
