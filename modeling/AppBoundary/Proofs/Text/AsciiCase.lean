-- The quick comparison reads bytes, the full one reads characters. An ASCII letter
-- is one byte and every byte of another character is beyond ASCII, so the bytes of
-- a text in small letters are the bytes with their letters made small. The quick
-- comparison then accepts nothing that the full one rejects.
import AppBoundary.Proofs.Text.Caseless
import AppBoundary.Proofs.Text.Utf8

namespace AppBoundary.Text

/-! ## Bytes -/

/-- A byte, an ASCII capital made small. -/
def lowerByte (b : UInt8) : UInt8 :=
  if 0x41 ≤ b && b ≤ 0x5A then b + 0x20 else b

/-- Bytes that are equal one by one but for the case of ASCII letters. -/
def eqBytesIgnoreCase : List UInt8 → List UInt8 → Bool
  | [], [] => true
  | a :: first, b :: second => lowerByte a == lowerByte b && eqBytesIgnoreCase first second
  | _, _ => false

theorem eqBytesIgnoreCase_iff {first second : List UInt8} :
    eqBytesIgnoreCase first second = true ↔ first.map lowerByte = second.map lowerByte := by
  fun_induction eqBytesIgnoreCase first second with
  | case1 => simp
  | case2 a first b second ih => simp [ih]
  | case3 first second hnil hcons =>
    cases first with
    | nil =>
      cases second with
      | nil => exact absurd rfl (hnil rfl)
      | cons => simp
    | cons a first =>
      cases second with
      | nil => simp
      | cons b second => exact absurd rfl (hcons a first b second rfl)

theorem lowerByte_of_capital {b : UInt8} (h : 65 ≤ b.toNat ∧ b.toNat ≤ 90) :
    lowerByte b = UInt8.ofNat (b.toNat + 32) := by
  have hletter : 0x41 ≤ b ∧ b ≤ 0x5A := by
    simpa only [UInt8.le_iff_toNat_le, UInt8.reduceToNat] using h
  rw [lowerByte, if_pos (by simpa using hletter)]
  apply UInt8.toNat_inj.1
  rw [UInt8.toNat_add, UInt8.toNat_ofNat']
  rfl

theorem lowerByte_of_not_capital {b : UInt8} (h : ¬ (65 ≤ b.toNat ∧ b.toNat ≤ 90)) :
    lowerByte b = b := by
  have hletter : ¬ (0x41 ≤ b ∧ b ≤ 0x5A) := by
    simpa only [UInt8.le_iff_toNat_le, UInt8.reduceToNat] using h
  rw [lowerByte, if_neg (by simpa using hletter)]

/-! ## Characters -/

theorem utf8EncodeChar_of_ascii {c : Char} (h : c.toNat < 0x80) :
    String.utf8EncodeChar c = [UInt8.ofNat c.toNat] := by
  have hone : c.val.toNat ≤ 0x7F := Nat.le_of_lt_succ h
  rw [String.utf8EncodeChar, if_pos hone]
  rfl

/-- The bytes of a character made small are its bytes made small. -/
theorem map_lowerByte_utf8EncodeChar (c : Char) :
    (String.utf8EncodeChar c).map lowerByte = String.utf8EncodeChar c.toLower := by
  by_cases hcapital : IsCapital c
  · have hlower := toNat_toLower_of_capital hcapital
    unfold IsCapital at hcapital
    have hbyte := toNat_ofNat (show c.toNat < 0x100 by omega)
    rw [utf8EncodeChar_of_ascii (by omega), utf8EncodeChar_of_ascii (by omega), List.map_singleton,
      lowerByte_of_capital (by omega), hbyte, hlower]
  · rw [toLower_of_not_capital hcapital]
    unfold IsCapital at hcapital
    by_cases hascii : c.toNat < 0x80
    · have hbyte := toNat_ofNat (show c.toNat < 0x100 by omega)
      rw [utf8EncodeChar_of_ascii hascii, List.map_singleton, lowerByte_of_not_capital (by omega)]
    · -- No byte of the character is a letter.
      have hhigh := le_of_mem_utf8EncodeChar (Nat.le_of_not_lt hascii)
      have hsame : ∀ b ∈ String.utf8EncodeChar c, lowerByte b = b := by
        intro b hb
        have hbyte := hhigh b hb
        exact lowerByte_of_not_capital (by omega)
      rw [List.map_congr_left hsame, List.map_id']

/-! ## Texts -/

/-- A text with its ASCII capitals made small. -/
def lowerAscii (text : String) : String :=
  String.ofList (text.toList.map Char.toLower)

theorem map_lowerByte_encode (text : String) :
    (encode text).map lowerByte = encode (lowerAscii text) := by
  rw [encode_eq_flatMap, encode_eq_flatMap, lowerAscii, String.toList_ofList, List.map_flatMap,
    List.flatMap_map]
  simp only [map_lowerByte_utf8EncodeChar]

theorem encode_inj {text other : String} : encode text = encode other ↔ text = other := by
  constructor
  · intro h
    rw [← decodeLenient_encode text, h, decodeLenient_encode]
  · rintro rfl
    rfl

/-- The test on bytes is the one on characters. -/
theorem eqBytesIgnoreCase_encode (a b : String) :
    eqBytesIgnoreCase (encode a) (encode b) = eqIgnoreAsciiCase a b := by
  rw [Bool.eq_iff_iff, eqBytesIgnoreCase_iff, map_lowerByte_encode, map_lowerByte_encode, encode_inj,
    lowerAscii, lowerAscii, String.ofList_inj, eqIgnoreAsciiCase, beq_iff_eq]

/-! ## The law -/

/-- The comparison says whether the lowercase forms of two texts are equal. Its quick test may run over
the bytes of the texts, and accepts nothing that the full test rejects. So the comparison sorts all
texts into classes. -/
theorem the_quick_test_accepts_only_equal_lowercase_forms :
    (∀ a b, eqIgnoreCase a b = true ↔ lower a = lower b) ∧
    (∀ a b, eqIgnoreCase a b = (eqBytesIgnoreCase (encode a) (encode b) || eqLower a b)) ∧
    (∀ a b, eqBytesIgnoreCase (encode a) (encode b) = true → eqLower a b = true) ∧
    Equivalence fun a b => eqIgnoreCase a b = true := by
  refine ⟨eqIgnoreCase_iff, ?_, ?_, ?_⟩
  · intro a b
    rw [eqBytesIgnoreCase_encode, eqIgnoreCase]
  · intro a b h
    rw [eqBytesIgnoreCase_encode] at h
    rw [eqLower, beq_iff_eq]
    exact lower_eq_of_eqIgnoreAsciiCase h
  · simp only [eqIgnoreCase_iff]
    exact ⟨fun _ => rfl, Eq.symm, Eq.trans⟩

/-- ASCII letters among others: the bytes agree but for the case of those, and so do the lowercase
forms. The small form of a letter beyond ASCII has other bytes, and only the full test accepts it. -/
theorem letters_beyond_ascii_need_the_full_test :
    eqBytesIgnoreCase (encode "COM.É𐐀") (encode "com.É𐐀") = true ∧
      eqLower "COM.É𐐀" "com.É𐐀" = true ∧
      eqBytesIgnoreCase (encode "com.É") (encode "com.é") = false ∧
      eqIgnoreCase "com.É" "com.é" = true := by
  obtain ⟨hfull, -, hquick, -⟩ := the_quick_test_accepts_only_equal_lowercase_forms
  have hbytes : eqBytesIgnoreCase (encode "COM.É𐐀") (encode "com.É𐐀") = true := by decide +kernel
  refine ⟨hbytes, hquick _ _ hbytes, by decide +kernel, (hfull _ _).2 ?_⟩
  decide +kernel

end AppBoundary.Text
