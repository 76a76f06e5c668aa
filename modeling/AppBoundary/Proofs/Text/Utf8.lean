-- UTF-8 read back: the bytes of a text are cut into its characters, with no
-- broken piece among them, and only the zero character has a zero byte.
import AppBoundary.Text.Utf8
import Mathlib.Data.List.Basic

namespace AppBoundary.Text

/-! ## Pieces by their first bytes -/

section Pieces

variable {a b c d : UInt8} (rest : List UInt8)

theorem isContinuation_iff : isContinuation b = true ↔ 0x80 ≤ b.toNat ∧ b.toNat ≤ 0xBF := by
  simp [isContinuation, UInt8.le_iff_toNat_le]

theorem utf8Pieces_one (ha : a.toNat < 0x80) :
    utf8Pieces (a :: rest) = .char (Char.ofNat a.toNat) :: utf8Pieces rest := by
  have hone : a < 0x80 := UInt8.lt_iff_toNat_lt.2 ha
  rw [utf8Pieces.eq_def]
  simp only [hone, if_true]

theorem utf8Pieces_two (ha : 0xC2 ≤ a.toNat ∧ a.toNat ≤ 0xDF) (hb : isContinuation b = true) :
    utf8Pieces (a :: b :: rest) =
      .char (Char.ofNat (a.toNat % 0x20 * 0x40 + tailBits b)) :: utf8Pieces rest := by
  have hone : ¬ a < 0x80 := by
    simp only [UInt8.lt_iff_toNat_lt, UInt8.reduceToNat]
    omega
  have htwo : 0xC2 ≤ a ∧ a ≤ 0xDF := by
    simpa only [UInt8.le_iff_toNat_le, UInt8.reduceToNat] using ha
  rw [utf8Pieces.eq_def]
  simp only [hone, if_false, htwo, decide_true, Bool.and_self, if_true, hb]

theorem utf8Pieces_three (ha : 0xE0 ≤ a.toNat ∧ a.toNat ≤ 0xEF) (hb : isSecondOfThree a b = true)
    (hc : isContinuation c = true) :
    utf8Pieces (a :: b :: c :: rest) =
      .char (Char.ofNat ((a.toNat % 0x10 * 0x40 + tailBits b) * 0x40 + tailBits c))
        :: utf8Pieces rest := by
  have hone : ¬ a < 0x80 := by
    simp only [UInt8.lt_iff_toNat_lt, UInt8.reduceToNat]
    omega
  have htwo : ¬ a ≤ 0xDF := by
    simp only [UInt8.le_iff_toNat_le, UInt8.reduceToNat]
    omega
  have hthree : 0xE0 ≤ a ∧ a ≤ 0xEF := by
    simpa only [UInt8.le_iff_toNat_le, UInt8.reduceToNat] using ha
  rw [utf8Pieces.eq_def]
  simp only [hone, if_false, htwo, decide_false, Bool.and_false, Bool.false_eq_true, hthree,
    decide_true, Bool.and_self, if_true, hb, hc]

theorem utf8Pieces_four (ha : 0xF0 ≤ a.toNat ∧ a.toNat ≤ 0xF4) (hb : isSecondOfFour a b = true)
    (hc : isContinuation c = true) (hd : isContinuation d = true) :
    utf8Pieces (a :: b :: c :: d :: rest) =
      .char (Char.ofNat
        (((a.toNat % 0x08 * 0x40 + tailBits b) * 0x40 + tailBits c) * 0x40 + tailBits d))
        :: utf8Pieces rest := by
  have hone : ¬ a < 0x80 := by
    simp only [UInt8.lt_iff_toNat_lt, UInt8.reduceToNat]
    omega
  have htwo : ¬ a ≤ 0xDF := by
    simp only [UInt8.le_iff_toNat_le, UInt8.reduceToNat]
    omega
  have hthree : ¬ a ≤ 0xEF := by
    simp only [UInt8.le_iff_toNat_le, UInt8.reduceToNat]
    omega
  have hfour : 0xF0 ≤ a ∧ a ≤ 0xF4 := by
    simpa only [UInt8.le_iff_toNat_le, UInt8.reduceToNat] using ha
  rw [utf8Pieces.eq_def]
  simp only [hone, if_false, htwo, hthree, decide_false, Bool.and_false, Bool.false_eq_true, hfour,
    decide_true, Bool.and_self, if_true, hb, hc, hd]

/-- The second byte of three leaves out the overlong forms and the surrogates. -/
theorem isSecondOfThree_iff : isSecondOfThree a b = true ↔
    isContinuation b = true ∧ (a.toNat = 0xE0 → 0xA0 ≤ b.toNat) ∧
      (a.toNat = 0xED → b.toNat ≤ 0x9F) := by
  simp only [isSecondOfThree, isContinuation_iff, beq_iff_eq, ← UInt8.toNat_inj, UInt8.reduceToNat]
  split
  · simp [UInt8.le_iff_toNat_le]
    omega
  · split
    · simp [UInt8.le_iff_toNat_le]
      omega
    · rw [isContinuation_iff]
      omega

/-- The second byte of four leaves out the overlong forms and what is beyond the last character. -/
theorem isSecondOfFour_iff : isSecondOfFour a b = true ↔
    isContinuation b = true ∧ (a.toNat = 0xF0 → 0x90 ≤ b.toNat) ∧
      (a.toNat = 0xF4 → b.toNat ≤ 0x8F) := by
  simp only [isSecondOfFour, isContinuation_iff, beq_iff_eq, ← UInt8.toNat_inj, UInt8.reduceToNat]
  split
  · simp [UInt8.le_iff_toNat_le]
    omega
  · split
    · simp [UInt8.le_iff_toNat_le]
      omega
    · rw [isContinuation_iff]
      omega

end Pieces

/-! ## One character -/

theorem toNat_ofNat {n : Nat} (h : n < 0x100) : (UInt8.ofNat n).toNat = n := by
  rw [UInt8.toNat_ofNat']
  exact Nat.mod_eq_of_lt h

/-- A byte of payload behind the first one. -/
theorem isContinuation_ofNat (n : Nat) : isContinuation (UInt8.ofNat (n % 0x40 + 0x80)) = true := by
  rw [isContinuation_iff, toNat_ofNat (by omega)]
  omega

theorem tailBits_ofNat (n : Nat) : tailBits (UInt8.ofNat (n % 0x40 + 0x80)) = n % 0x40 := by
  rw [tailBits, toNat_ofNat (by omega)]
  omega

/-- The bytes of a character are cut off as that character. -/
theorem utf8Pieces_utf8EncodeChar (c : Char) (rest : List UInt8) :
    utf8Pieces (String.utf8EncodeChar c ++ rest) = .char c :: utf8Pieces rest := by
  have hvalid : c.toNat < 0xD800 ∨ 0xDFFF < c.toNat ∧ c.toNat < 0x110000 := c.valid
  have hchar : Char.ofNat c.toNat = c := Char.ofNat_toNat c
  have hval : c.val.toNat = c.toNat := rfl
  unfold String.utf8EncodeChar
  simp only [hval]
  generalize c.toNat = n at hvalid hchar
  split
  · have ha := toNat_ofNat (show n < 0x100 by omega)
    rw [List.singleton_append, utf8Pieces_one rest (by omega), ha, hchar]
  · split
    · have ha := toNat_ofNat (show n / 64 % 0x20 + 0xC0 < 0x100 by omega)
      rw [List.cons_append, List.singleton_append,
        utf8Pieces_two rest (by omega) (isContinuation_ofNat n), tailBits_ofNat, ha,
        show (n / 64 % 0x20 + 0xC0) % 0x20 * 0x40 + n % 0x40 = n by omega, hchar]
    · split
      · have ha := toNat_ofNat (show n / 4096 % 0x10 + 0xE0 < 0x100 by omega)
        have hb := toNat_ofNat (show n / 64 % 0x40 + 0x80 < 0x100 by omega)
        have hsecond : isSecondOfThree (UInt8.ofNat (n / 4096 % 0x10 + 0xE0))
            (UInt8.ofNat (n / 64 % 0x40 + 0x80)) = true :=
          isSecondOfThree_iff.2 ⟨isContinuation_ofNat (n / 64), by omega, by omega⟩
        rw [List.cons_append, List.cons_append, List.singleton_append,
          utf8Pieces_three rest (by omega) hsecond (isContinuation_ofNat n), tailBits_ofNat,
          tailBits_ofNat, ha,
          show ((n / 4096 % 0x10 + 0xE0) % 0x10 * 0x40 + n / 64 % 0x40) * 0x40 + n % 0x40 = n by
            omega, hchar]
      · have ha := toNat_ofNat (show n / 262144 % 0x08 + 0xF0 < 0x100 by omega)
        have hb := toNat_ofNat (show n / 4096 % 0x40 + 0x80 < 0x100 by omega)
        have hsecond : isSecondOfFour (UInt8.ofNat (n / 262144 % 0x08 + 0xF0))
            (UInt8.ofNat (n / 4096 % 0x40 + 0x80)) = true :=
          isSecondOfFour_iff.2 ⟨isContinuation_ofNat (n / 4096), by omega, by omega⟩
        rw [List.cons_append, List.cons_append, List.cons_append, List.singleton_append,
          utf8Pieces_four rest (by omega) hsecond (isContinuation_ofNat (n / 64))
            (isContinuation_ofNat n), tailBits_ofNat, tailBits_ofNat, tailBits_ofNat, ha,
          show (((n / 262144 % 0x08 + 0xF0) % 0x08 * 0x40 + n / 4096 % 0x40) * 0x40 +
            n / 64 % 0x40) * 0x40 + n % 0x40 = n by omega, hchar]

/-- Beyond ASCII every byte has the high bit. -/
theorem le_of_mem_utf8EncodeChar {c : Char} (hc : 0x80 ≤ c.toNat) :
    ∀ b ∈ String.utf8EncodeChar c, 0x80 ≤ b.toNat := by
  have hhigh : ∀ {k : Nat}, 0x80 ≤ k → k < 0x100 → 0x80 ≤ (UInt8.ofNat k).toNat := by
    intro k hk hbyte
    rwa [toNat_ofNat hbyte]
  have hval : c.val.toNat = c.toNat := rfl
  unfold String.utf8EncodeChar
  simp only [hval]
  split
  · omega
  · split
    · simp only [List.mem_cons, List.not_mem_nil, or_false, forall_eq_or_imp, forall_eq]
      exact ⟨hhigh (by omega) (by omega), hhigh (by omega) (by omega)⟩
    · split
      · simp only [List.mem_cons, List.not_mem_nil, or_false, forall_eq_or_imp, forall_eq]
        exact ⟨hhigh (by omega) (by omega), hhigh (by omega) (by omega),
          hhigh (by omega) (by omega)⟩
      · simp only [List.mem_cons, List.not_mem_nil, or_false, forall_eq_or_imp, forall_eq]
        exact ⟨hhigh (by omega) (by omega), hhigh (by omega) (by omega),
          hhigh (by omega) (by omega), hhigh (by omega) (by omega)⟩

/-- Only the zero character has a zero byte. -/
theorem eq_zero_of_mem_utf8EncodeChar {c : Char} (h : 0 ∈ String.utf8EncodeChar c) :
    c = '\x00' := by
  rcases Nat.lt_or_ge c.toNat 0x80 with hascii | hbeyond
  · have hone : c.val.toNat ≤ 0x7F := Nat.le_of_lt_succ hascii
    rw [String.utf8EncodeChar, if_pos hone, List.mem_singleton] at h
    have hzero : c.toNat = 0 := (toNat_ofNat (by omega)).symm.trans (congrArg UInt8.toNat h.symm)
    exact Char.ext (UInt32.toNat_inj.1 hzero)
  · exact absurd (le_of_mem_utf8EncodeChar hbeyond 0 h) (by decide)

/-! ## Texts -/

theorem encode_eq_flatMap (text : String) :
    encode text = text.toList.flatMap String.utf8EncodeChar := by
  conv => lhs; rw [encode, String.toUTF8_eq_toByteArray, ← String.ofList_toList (s := text)]
  rw [String.toByteArray_ofList, List.utf8Encode, List.toList_data_toByteArray]

/-- A text is read back from its bytes. -/
theorem decodeLenient_encode (text : String) : decodeLenient (encode text) = text := by
  have hpieces : ∀ cs : List Char,
      (utf8Pieces (cs.flatMap String.utf8EncodeChar)).map Utf8Piece.toChar = cs := by
    intro cs
    induction cs with
    | nil => rw [List.flatMap_nil, utf8Pieces, List.map_nil]
    | cons c cs ih =>
      rw [List.flatMap_cons, utf8Pieces_utf8EncodeChar, List.map_cons, ih, Utf8Piece.toChar]
  rw [decodeLenient, encode_eq_flatMap, hpieces, String.ofList_toList]

theorem zero_not_mem_encode {text : String} (h : '\x00' ∉ text.toList) : 0 ∉ encode text := by
  rw [encode_eq_flatMap, List.mem_flatMap]
  rintro ⟨c, hc, hzero⟩
  exact h (eq_zero_of_mem_utf8EncodeChar hzero ▸ hc)

theorem length_encode (text : String) : (encode text).length = text.utf8ByteSize := rfl

end AppBoundary.Text
