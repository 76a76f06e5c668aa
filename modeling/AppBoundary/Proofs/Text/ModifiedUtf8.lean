-- Texts in the modified form that compiled code has for them: units of sixteen
-- bits, each in one to three bytes, and no zero byte. Lenient decoding takes them
-- for plain UTF-8. It gives back the characters of one unit, but for the zero
-- character, and takes every byte of a surrogate for a broken piece.
import AppBoundary.Proofs.Text.Utf8

namespace AppBoundary.Text

/-! ## The modified form -/

/-- The units of sixteen bits of a character: one, or two surrogates. -/
def utf16Units (c : Char) : List Nat :=
  if c.toNat < 0x10000 then [c.toNat]
  else [0xD800 + (c.toNat - 0x10000) / 0x400, 0xDC00 + (c.toNat - 0x10000) % 0x400]

/-- The bytes of a unit. The zero unit has two, as units from 0x80 on have. -/
def unitBytes (unit : Nat) : List UInt8 :=
  if 0 < unit ∧ unit < 0x80 then [UInt8.ofNat unit]
  else if unit < 0x800 then [UInt8.ofNat (unit / 0x40 + 0xC0), UInt8.ofNat (unit % 0x40 + 0x80)]
  else [UInt8.ofNat (unit / 0x1000 + 0xE0), UInt8.ofNat (unit / 0x40 % 0x40 + 0x80),
    UInt8.ofNat (unit % 0x40 + 0x80)]

/-- The number of units of a text. -/
def utf16Length (text : String) : Nat :=
  (text.toList.flatMap utf16Units).length

/-- The modified form of a text. -/
def modifiedUtf8 (text : String) : List UInt8 :=
  (text.toList.flatMap utf16Units).flatMap unitBytes

/-! ## What lenient decoding makes of it -/

/-- The character has one unit and is not the zero character. -/
def IsPlain (c : Char) : Prop :=
  0 < c.toNat ∧ c.toNat < 0x10000

instance (c : Char) : Decidable (IsPlain c) :=
  inferInstanceAs (Decidable (_ ∧ _))

/-- What comes back for a character: itself, or a replacement character for each byte of its modified
form. -/
def readLeniently (c : Char) : List Char :=
  if IsPlain c then [c]
  else if c.toNat = 0 then List.replicate 2 '\uFFFD'
  else List.replicate 6 '\uFFFD'

/-- The text that comes back. -/
def lenientReading (text : String) : String :=
  String.ofList (text.toList.flatMap readLeniently)

/-! ## Pieces -/

section Pieces

variable {a b : UInt8} (rest : List UInt8)

/-- A byte that starts no character is a broken piece of its own. -/
theorem utf8Pieces_of_no_start (ha : 0x80 ≤ a.toNat ∧ a.toNat < 0xC2) :
    utf8Pieces (a :: rest) = .broken :: utf8Pieces rest := by
  have hone : ¬ a < 0x80 := by
    simp only [UInt8.lt_iff_toNat_lt, UInt8.reduceToNat]
    omega
  have htwo : ¬ 0xC2 ≤ a := by
    simp only [UInt8.le_iff_toNat_le, UInt8.reduceToNat]
    omega
  have hthree : ¬ 0xE0 ≤ a := by
    simp only [UInt8.le_iff_toNat_le, UInt8.reduceToNat]
    omega
  have hfour : ¬ 0xF0 ≤ a := by
    simp only [UInt8.le_iff_toNat_le, UInt8.reduceToNat]
    omega
  rw [utf8Pieces.eq_def]
  simp only [hone, htwo, hthree, hfour, decide_false, Bool.false_and, Bool.false_eq_true, if_false]

/-- The first byte of three is a broken piece where the next one does not go with it. -/
theorem utf8Pieces_of_no_second (ha : 0xE0 ≤ a.toNat ∧ a.toNat ≤ 0xEF)
    (hb : isSecondOfThree a b = false) :
    utf8Pieces (a :: b :: rest) = .broken :: utf8Pieces (b :: rest) := by
  have hone : ¬ a < 0x80 := by
    simp only [UInt8.lt_iff_toNat_lt, UInt8.reduceToNat]
    omega
  have htwo : ¬ a ≤ 0xDF := by
    simp only [UInt8.le_iff_toNat_le, UInt8.reduceToNat]
    omega
  have hthree : 0xE0 ≤ a ∧ a ≤ 0xEF := by
    simpa only [UInt8.le_iff_toNat_le, UInt8.reduceToNat] using ha
  rw [utf8Pieces.eq_def]
  simp only [hone, if_false, htwo, decide_false, Bool.and_false, Bool.false_eq_true, hthree,
    decide_true, Bool.and_self, if_true, hb]

end Pieces

/-! ## Units -/

theorem utf8Pieces_payload (n : Nat) (rest : List UInt8) :
    utf8Pieces (UInt8.ofNat (n % 0x40 + 0x80) :: rest) = .broken :: utf8Pieces rest := by
  refine utf8Pieces_of_no_start rest ?_
  rw [toNat_ofNat (by omega)]
  omega

/-- The bytes of the zero unit are two broken pieces. -/
theorem utf8Pieces_zero_unit (rest : List UInt8) :
    utf8Pieces (unitBytes 0 ++ rest) = .broken :: .broken :: utf8Pieces rest := by
  have hbytes : unitBytes 0 ++ rest = 0xC0 :: 0x80 :: rest := rfl
  rw [hbytes, utf8Pieces_of_no_start _ (by decide), utf8Pieces_of_no_start _ (by decide)]

/-- The bytes of a surrogate are three broken pieces: the first one asks for a second that is below
0xA0. -/
theorem utf8Pieces_surrogate {unit : Nat} (hunit : 0xD800 ≤ unit ∧ unit < 0xE000)
    (rest : List UInt8) :
    utf8Pieces (unitBytes unit ++ rest) = .broken :: .broken :: .broken :: utf8Pieces rest := by
  have hbytes : unitBytes unit = [UInt8.ofNat (unit / 0x1000 + 0xE0),
      UInt8.ofNat (unit / 0x40 % 0x40 + 0x80), UInt8.ofNat (unit % 0x40 + 0x80)] := by
    rw [unitBytes, if_neg (by omega), if_neg (by omega)]
  have hfirst := toNat_ofNat (show unit / 0x1000 + 0xE0 < 0x100 by omega)
  have hsecond := toNat_ofNat (show unit / 0x40 % 0x40 + 0x80 < 0x100 by omega)
  have hbroken : isSecondOfThree (UInt8.ofNat (unit / 0x1000 + 0xE0))
      (UInt8.ofNat (unit / 0x40 % 0x40 + 0x80)) = false := by
    rw [Bool.eq_false_iff, ne_eq, isSecondOfThree_iff]
    rintro ⟨-, -, hlow⟩
    omega
  rw [hbytes, List.cons_append, List.cons_append, List.singleton_append,
    utf8Pieces_of_no_second _ (by omega) hbroken, utf8Pieces_payload, utf8Pieces_payload]

/-- A character of one unit other than zero has the bytes that it has in plain UTF-8. -/
theorem unitBytes_of_plain {c : Char} (h : IsPlain c) :
    unitBytes c.toNat = String.utf8EncodeChar c := by
  unfold IsPlain at h
  have hval : c.val.toNat = c.toNat := rfl
  unfold unitBytes String.utf8EncodeChar
  simp only [hval]
  generalize c.toNat = n at h
  by_cases hone : n ≤ 0x7F
  · rw [if_pos (by omega), if_pos hone]
  · rw [if_neg (by omega), if_neg hone]
    by_cases htwo : n ≤ 0x7FF
    · rw [if_pos (by omega), if_pos htwo, show n / 64 % 0x20 = n / 0x40 by omega]
    · rw [if_neg (by omega), if_neg htwo, if_pos (by omega),
        show n / 4096 % 0x10 = n / 0x1000 by omega]

/-! ## Characters -/

theorem toChar_pieces_of_char (c : Char) (rest : List UInt8) :
    (utf8Pieces ((utf16Units c).flatMap unitBytes ++ rest)).map Utf8Piece.toChar =
      readLeniently c ++ (utf8Pieces rest).map Utf8Piece.toChar := by
  have hvalid : c.toNat < 0xD800 ∨ 0xDFFF < c.toNat ∧ c.toNat < 0x110000 := c.valid
  by_cases hplain : IsPlain c
  · have hunits : utf16Units c = [c.toNat] := by rw [utf16Units, if_pos hplain.2]
    rw [hunits, List.flatMap_singleton, unitBytes_of_plain hplain, utf8Pieces_utf8EncodeChar,
      readLeniently, if_pos hplain]
    rfl
  · by_cases hzero : c.toNat = 0
    · have hunits : utf16Units c = [0] := by rw [utf16Units, if_pos (by omega), hzero]
      rw [hunits, List.flatMap_singleton, utf8Pieces_zero_unit, readLeniently, if_neg hplain,
        if_pos hzero]
      rfl
    · have hbeyond : 0x10000 ≤ c.toNat := by
        unfold IsPlain at hplain
        omega
      have hunits : utf16Units c = [0xD800 + (c.toNat - 0x10000) / 0x400,
          0xDC00 + (c.toNat - 0x10000) % 0x400] := by
        rw [utf16Units, if_neg (by omega)]
      rw [hunits, List.flatMap_cons, List.flatMap_singleton, List.append_assoc,
        utf8Pieces_surrogate (by omega), utf8Pieces_surrogate (by omega), readLeniently,
        if_neg hplain, if_neg hzero]
      rfl

/-! ## Texts -/

/-- Lenient decoding of a text in modified form. -/
theorem decodeLenient_modifiedUtf8 (text : String) :
    decodeLenient (modifiedUtf8 text) = lenientReading text := by
  have hpieces : ∀ cs : List Char,
      (utf8Pieces ((cs.flatMap utf16Units).flatMap unitBytes)).map Utf8Piece.toChar =
        cs.flatMap readLeniently := by
    intro cs
    induction cs with
    | nil => rw [List.flatMap_nil, List.flatMap_nil, utf8Pieces, List.map_nil, List.flatMap_nil]
    | cons c cs ih =>
      rw [List.flatMap_cons, List.flatMap_append, toChar_pieces_of_char, ih, List.flatMap_cons]
  rw [decodeLenient, modifiedUtf8, hpieces, lenientReading]

theorem zero_ne_ofNat {n : Nat} (hpos : 0 < n) (hn : n < 0x100) : (0 : UInt8) ≠ UInt8.ofNat n := by
  intro h
  have hnat := congrArg UInt8.toNat h
  rw [toNat_ofNat hn, UInt8.toNat_zero] at hnat
  omega

theorem zero_not_mem_unitBytes {unit : Nat} (hunit : unit < 0x10000) : 0 ∉ unitBytes unit := by
  intro h
  unfold unitBytes at h
  split at h
  · rw [List.mem_singleton] at h
    exact zero_ne_ofNat (by omega) (by omega) h
  · split at h
    · rw [List.mem_cons, List.mem_singleton] at h
      rcases h with h | h
      · exact zero_ne_ofNat (by omega) (by omega) h
      · exact zero_ne_ofNat (by omega) (by omega) h
    · rw [List.mem_cons, List.mem_cons, List.mem_singleton] at h
      rcases h with h | h | h
      · exact zero_ne_ofNat (by omega) (by omega) h
      · exact zero_ne_ofNat (by omega) (by omega) h
      · exact zero_ne_ofNat (by omega) (by omega) h

theorem lt_of_mem_utf16Units {c : Char} {unit : Nat} (h : unit ∈ utf16Units c) :
    unit < 0x10000 := by
  have hvalid : c.toNat < 0xD800 ∨ 0xDFFF < c.toNat ∧ c.toNat < 0x110000 := c.valid
  unfold utf16Units at h
  split at h
  · rw [List.mem_singleton] at h
    omega
  · rw [List.mem_cons, List.mem_singleton] at h
    omega

/-- The modified form has no zero byte. -/
theorem zero_not_mem_modifiedUtf8 (text : String) : 0 ∉ modifiedUtf8 text := by
  rw [modifiedUtf8, List.mem_flatMap]
  rintro ⟨unit, hunit, hzero⟩
  obtain ⟨c, -, hc⟩ := List.mem_flatMap.1 hunit
  exact zero_not_mem_unitBytes (lt_of_mem_utf16Units hc) hzero

/-! ## Texts that come back as they are -/

theorem length_readLeniently_pos (c : Char) : 1 ≤ (readLeniently c).length := by
  unfold readLeniently
  split
  · simp
  · split <;> simp

theorem length_readLeniently_of_not_plain {c : Char} (h : ¬ IsPlain c) :
    1 < (readLeniently c).length := by
  rw [readLeniently, if_neg h]
  split <;> simp

theorem flatMap_readLeniently_of_plain {cs : List Char} (h : ∀ c ∈ cs, IsPlain c) :
    cs.flatMap readLeniently = cs := by
  induction cs with
  | nil => rfl
  | cons c cs ih =>
    obtain ⟨hc, hcs⟩ := List.forall_mem_cons.1 h
    rw [List.flatMap_cons, readLeniently, if_pos hc, ih hcs, List.singleton_append]

theorem length_le_flatMap_readLeniently (cs : List Char) :
    cs.length ≤ (cs.flatMap readLeniently).length := by
  induction cs with
  | nil => exact Nat.le_refl _
  | cons c cs ih =>
    have hc := length_readLeniently_pos c
    rw [List.flatMap_cons, List.length_append, List.length_cons]
    omega

theorem forall_plain_of_length_eq {cs : List Char}
    (h : (cs.flatMap readLeniently).length = cs.length) : ∀ c ∈ cs, IsPlain c := by
  induction cs with
  | nil => simp
  | cons c cs ih =>
    have hrest := length_le_flatMap_readLeniently cs
    have hfirst := length_readLeniently_pos c
    rw [List.flatMap_cons, List.length_append, List.length_cons] at h
    have hplain : IsPlain c := by
      by_contra hnot
      have := length_readLeniently_of_not_plain hnot
      omega
    exact List.forall_mem_cons.2 ⟨hplain, ih (by omega)⟩

/-- A text comes back as it is exactly when all of its characters do: every other one makes it
longer. -/
theorem lenientReading_eq_self_iff {text : String} :
    lenientReading text = text ↔ ∀ c ∈ text.toList, IsPlain c := by
  rw [← String.toList_inj, lenientReading, String.toList_ofList]
  constructor
  · intro h
    exact forall_plain_of_length_eq (congrArg List.length h)
  · exact flatMap_readLeniently_of_plain

end AppBoundary.Text
