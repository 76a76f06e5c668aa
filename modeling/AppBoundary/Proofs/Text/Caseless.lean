-- The comparison without regard to case is equality of lowercase forms: the
-- quick test on ASCII letters accepts nothing else.
import AppBoundary.Text.Caseless

namespace AppBoundary.Text

/-! ## One character -/

/-- An ASCII capital letter. -/
def IsCapital (c : Char) : Prop :=
  65 ≤ c.toNat ∧ c.toNat ≤ 90

theorem toNat_toLower_of_capital {c : Char} (h : IsCapital c) :
    c.toLower.toNat = c.toNat + 32 := by
  have hc : c.val ≥ 'A'.val ∧ c.val ≤ 'Z'.val := h
  have hsum : (c.val + ('a'.val - 'A'.val)).toNat = c.toNat + 32 := by
    rw [UInt32.toNat_add]
    have := h.2
    exact Nat.mod_eq_of_lt (show c.toNat + 32 < 4294967296 by omega)
  have hlower : c.toLower.val = c.val + ('a'.val - 'A'.val) := congrArg Char.val (dif_pos hc)
  rw [← hsum, ← hlower]
  rfl

theorem toLower_of_not_capital {c : Char} (h : ¬ IsCapital c) : c.toLower = c := by
  have hc : ¬ (c.val ≥ 'A'.val ∧ c.val ≤ 'Z'.val) := h
  exact dif_neg hc

/-- The ASCII lowercase form of a character has the same full lowercase form. -/
theorem lowerChar_toLower (c : Char) : lowerChar c.toLower = lowerChar c := by
  by_cases h : IsCapital c
  · have hlower := toNat_toLower_of_capital h
    unfold IsCapital at h
    have hsmall : ¬ IsCapital c.toLower := by
      unfold IsCapital
      omega
    rw [lowerChar, if_pos (by omega), lowerChar, if_pos (by omega), toLower_of_not_capital hsmall]
  · rw [toLower_of_not_capital h]

/-! ## Texts -/

/-- Texts that differ only in the case of ASCII letters have equal lowercase forms. -/
theorem lower_eq_of_eqIgnoreAsciiCase {a b : String} (h : eqIgnoreAsciiCase a b = true) :
    lower a = lower b := by
  have hmap : a.toList.map Char.toLower = b.toList.map Char.toLower := by
    simpa [eqIgnoreAsciiCase] using h
  have hlower : ∀ text : String,
      lower text = (text.toList.map Char.toLower).flatMap lowerChar := by
    intro text
    rw [List.flatMap_map]
    simp only [lowerChar_toLower, lower]
  rw [hlower a, hlower b, hmap]

theorem eqIgnoreCase_iff (a b : String) : eqIgnoreCase a b = true ↔ lower a = lower b := by
  simp only [eqIgnoreCase, eqLower, Bool.or_eq_true, beq_iff_eq, or_iff_right_iff_imp]
  exact lower_eq_of_eqIgnoreAsciiCase

end AppBoundary.Text
