-- Numbers in groups of seven bits, low bits first. The reader finds such a number
-- where up to five bytes write one, and says which byte is missing or that none of
-- the five is the last. Its words of thirty-two bits lose nothing but what does not
-- fit them, and every number of a word is read back from its bytes, padded or not.
import AppBoundary.Proofs.Dex.Reading
import Mathlib.Algebra.BigOperators.Group.Finset.Basic
import Mathlib.Algebra.BigOperators.Ring.Finset
import Mathlib.Algebra.Order.Ring.Nat
import Mathlib.Data.Nat.Bitwise

namespace AppBoundary

open DexLayout

/-! ## Words -/

/-- The high bit tells whether a byte is below 0x80. -/
theorem and_high_bit_eq_zero_iff {b : UInt8} : b &&& 0x80 = 0 ↔ b.toNat < 0x80 := by
  have htest : b.toNat.testBit 7 = decide (b.toNat / 0x80 % 2 = 1) := Nat.testBit_eq_decide_div_mod_eq
  have hbit : (b &&& 0x80).toNat = (b.toNat.testBit 7).toNat * 0x80 := by
    rw [UInt8.toNat_and]
    exact Nat.and_two_pow b.toNat 7
  have hb : b.toNat < 0x100 := b.toNat_lt
  rw [← UInt8.toNat_inj, hbit, htest]
  by_cases hhigh : b.toNat / 0x80 % 2 = 1
  · simp only [hhigh, decide_true, Bool.toNat_true, UInt8.reduceToNat]
    omega
  · simp only [hhigh, decide_false, Bool.toNat_false, UInt8.reduceToNat, true_iff]
    omega

/-- A group of seven bits joins a word in which it finds nothing but zeros. What does not fit the word
is lost. -/
theorem toNat_or_shift {word : UInt32} {b : UInt8} {i : Nat} (hi : i < 5)
    (hword : word.toNat < 2 ^ (7 * i)) :
    (word ||| (b &&& 0x7F).toUInt32 <<< UInt32.ofNat (7 * i)).toNat =
      (word.toNat + 2 ^ (7 * i) * (b.toNat % 0x80)) % 2 ^ 32 := by
  have hshift : (UInt32.ofNat (7 * i)).toNat % 32 = 7 * i := by
    rw [UInt32.toNat_ofNat']
    omega
  have hgroup : (b &&& 0x7F).toUInt32.toNat = b.toNat % 0x80 := by
    rw [UInt8.toNat_toUInt32, UInt8.toNat_and]
    exact Nat.and_two_pow_sub_one_eq_mod b.toNat 7
  have hbits : 2 ^ 32 = 2 ^ (7 * i) * 2 ^ (32 - 7 * i) := by
    rw [← Nat.pow_add]
    congr 1
    omega
  rw [UInt32.toNat_or, UInt32.toNat_shiftLeft, hshift, hgroup, Nat.shiftLeft_eq]
  generalize b.toNat % 0x80 = group
  rw [hbits, Nat.mul_comm group, Nat.mul_mod_mul_left, Nat.or_comm,
    ← Nat.two_pow_add_eq_or_of_lt hword, Nat.mod_mul, Nat.add_mul_mod_self_left,
    Nat.mod_eq_of_lt hword, Nat.add_mul_div_left _ _ (Nat.two_pow_pos _),
    Nat.div_eq_of_lt hword, Nat.zero_add, Nat.add_comm]

namespace DexImage

variable {image : DexImage} {start left i offset : Nat}

/-- The number at a place as a machine reads it: from byte `i` behind `start` on, each byte adds its
low seven bits to a word, and the first byte without the high bit ends the number. At most `left` bytes
are read. -/
def ulebWords (image : DexImage) (start : Nat) :
    Nat → Nat → UInt32 → Except IndexFault (UInt32 × Nat)
  | 0, _, _ => .error (.longUleb start)
  | left + 1, i, word =>
    match image.bytes[start + i]? with
    | none => .error (.pastEnd (start + i))
    | some b =>
      let word := word ||| (b &&& 0x7F).toUInt32 <<< UInt32.ofNat (7 * i)
      if b &&& 0x80 = 0 then .ok (word, i + 1) else image.ulebWords start left (i + 1) word

/-- The word holds the groups read so far, below the place of the next one. -/
theorem ulebWords_eq {word : UInt32} (hleft : i + left = 5) (hword : word.toNat < 2 ^ (7 * i)) :
    (image.ulebWords start left i word).map (fun (word, length) => (word.toNat, length)) =
      (image.ulebGroups start left i).map fun (value, length) =>
        ((word.toNat + 2 ^ (7 * i) * value) % 2 ^ 32, length) := by
  induction left generalizing i word with
  | zero => rfl
  | succ left ih =>
    have hpow : 2 ^ (7 * (i + 1)) = 2 ^ (7 * i) * 0x80 := by
      rw [Nat.mul_add, Nat.pow_add]
    rw [ulebWords]
    by_cases hin : start + i < image.size
    · obtain ⟨b, hb⟩ := Bytes.exists_byte image.bytes hin
      have hsum := toNat_or_shift (b := b) (show i < 5 by omega) hword
      simp only [hb]
      by_cases hlow : b.toNat < 0x80
      · rw [if_pos (and_high_bit_eq_zero_iff.2 hlow), ulebGroups_last hb hlow]
        simp only [Except.map, hsum, Nat.mod_eq_of_lt hlow]
      · have hnext : (word ||| (b &&& 0x7F).toUInt32 <<< UInt32.ofNat (7 * i)).toNat <
            2 ^ (7 * (i + 1)) := by
          rw [hsum, hpow]
          refine Nat.lt_of_le_of_lt (Nat.mod_le _ _) ?_
          have hgroup : b.toNat % 0x80 ≤ 0x7F := by omega
          have := Nat.mul_le_mul_left (2 ^ (7 * i)) hgroup
          omega
        rw [if_neg (mt and_high_bit_eq_zero_iff.1 hlow), ih (by omega) hnext,
          ulebGroups_high hb (by omega)]
        cases image.ulebGroups start left (i + 1) with
        | error cause => rfl
        | ok result =>
          obtain ⟨value, length⟩ := result
          simp only [Except.map, hsum, hpow, Except.ok.injEq, Prod.mk.injEq, and_true]
          rw [Nat.mod_add_mod, Nat.add_assoc, Nat.mul_assoc, ← Nat.mul_add]
    · have hnone : image.bytes[start + i]? = none := getElem?_neg image.bytes _ hin
      rw [ulebGroups_outside (Nat.le_of_not_lt hin)]
      simp only [hnone]
      rfl

/-- Words of thirty-two bits are enough to read a number. -/
theorem ulebAt_eq_words (image : DexImage) (offset : Nat) :
    image.ulebAt offset =
      (image.ulebWords offset 5 0 0).map fun (word, length) => (word.toNat, length) := by
  rw [ulebWords_eq (by rfl) (by decide), ulebAt]
  simp

/-! ## What ends a number -/

theorem byte_outside (h : image.size ≤ offset) : image.byte offset = 0 := by
  unfold byte Bytes.byteAt
  rw [getElem?_neg image.bytes offset (Nat.not_lt.2 h)]

/-- The groups fail at the first byte that is missing, or when none of the bytes that may be read is
the last of the number. -/
theorem ulebGroups_eq_error_iff {cause : IndexFault} :
    image.ulebGroups start left i = .error cause ↔
      (∃ k < left, cause = .pastEnd (start + i + k) ∧ image.size ≤ start + i + k ∧
        ∀ j < k, 0x80 ≤ image.byte (start + i + j)) ∨
      cause = .longUleb start ∧ ∀ j < left, 0x80 ≤ image.byte (start + i + j) := by
  induction left generalizing i with
  | zero => simp [ulebGroups, eq_comm]
  | succ left ih =>
    -- The first byte decides, or leaves the decision to those behind it.
    have hshift : ∀ k, start + (i + 1) + k = start + i + (k + 1) := by omega
    simp only [Nat.exists_lt_succ_left, Nat.forall_lt_succ_left, Nat.add_zero]
    by_cases hin : start + i < image.size
    · obtain ⟨b, hb⟩ := Bytes.exists_byte image.bytes hin
      have hbyte : image.byte (start + i) = b.toNat := Bytes.byteAt_eq hb
      by_cases hlow : b.toNat < 0x80
      · rw [ulebGroups_last hb hlow]
        simp [hbyte, Nat.not_le.2 hlow, Nat.not_le.2 hin]
      · rw [ulebGroups_high hb (Nat.le_of_not_lt hlow), Except.map_eq_error_iff, ih]
        simp [hshift, hbyte, Nat.le_of_not_lt hlow, Nat.not_le.2 hin]
    · have hbyte : image.byte (start + i) = 0 := byte_outside (Nat.le_of_not_lt hin)
      rw [ulebGroups_outside (Nat.le_of_not_lt hin)]
      simp [hbyte, Nat.le_of_not_lt hin, eq_comm]

/-- A read of a number fails at the first byte that is missing, or at its own place when all of five
bytes have the high bit. -/
theorem ulebAt_eq_error_iff {cause : IndexFault} :
    image.ulebAt offset = .error cause ↔
      (∃ k < 5, cause = .pastEnd (offset + k) ∧ image.size ≤ offset + k ∧
        ∀ j < k, 0x80 ≤ image.byte (offset + j)) ∨
      cause = .longUleb offset ∧ ∀ j < 5, 0x80 ≤ image.byte (offset + j) := by
  rw [ulebAt, Except.map_eq_error_iff, ulebGroups_eq_error_iff]
  rfl

/-- A byte with the high bit lies in the file. -/
theorem lt_size_of_high (h : 0x80 ≤ image.byte offset) : offset < image.size := by
  by_contra hout
  rw [byte_outside (Nat.le_of_not_lt hout)] at h
  cases h

theorem ulebAt_eq_pastEnd_iff {place : Nat} :
    image.ulebAt offset = .error (.pastEnd place) ↔
      ∃ k < 5, place = offset + k ∧ image.size ≤ place ∧
        ∀ j < k, offset + j < image.size ∧ 0x80 ≤ image.byte (offset + j) := by
  rw [ulebAt_eq_error_iff]
  constructor
  · rintro (⟨k, hk, hplace, hout, hhigh⟩ | ⟨hplace, -⟩)
    · cases hplace
      exact ⟨k, hk, rfl, hout, fun j hj => ⟨lt_size_of_high (hhigh j hj), hhigh j hj⟩⟩
    · cases hplace
  · rintro ⟨k, hk, rfl, hout, hhigh⟩
    exact .inl ⟨k, hk, rfl, hout, fun j hj => (hhigh j hj).2⟩

theorem ulebAt_eq_longUleb_iff {place : Nat} :
    image.ulebAt offset = .error (.longUleb place) ↔
      place = offset ∧ offset + 5 ≤ image.size ∧ ∀ k < 5, 0x80 ≤ image.byte (offset + k) := by
  rw [ulebAt_eq_error_iff]
  constructor
  · rintro (⟨k, -, hplace, -⟩ | ⟨hplace, hhigh⟩)
    · cases hplace
    · cases hplace
      exact ⟨rfl, lt_size_of_high (hhigh 4 (by decide)), hhigh⟩
  · rintro ⟨rfl, -, hhigh⟩
    exact .inr ⟨rfl, hhigh⟩

/-! ## The value of a number -/

theorem exists_bytesAt {n : Nat} (h : offset + n ≤ image.size) :
    ∃ bytes : List UInt8, bytes.length = n ∧ BytesAt image.bytes offset bytes := by
  induction n generalizing offset with
  | zero => exact ⟨[], rfl, bytesAt_nil offset⟩
  | succ n ih =>
    obtain ⟨b, hb⟩ := Bytes.exists_byte image.bytes (show offset < image.size by omega)
    obtain ⟨rest, hlength, hrest⟩ := @ih (offset + 1) (by omega)
    exact ⟨b :: rest, by rw [List.length_cons, hlength], bytesAt_cons.2 ⟨hb, hrest⟩⟩

theorem byte_of_bytesAt {bytes : List UInt8} (h : BytesAt image.bytes offset bytes) {k : Nat}
    (hk : k < bytes.length) : image.byte (offset + k) = bytes[k].toNat :=
  Bytes.byteAt_eq (h k hk)

/-- The groups of some bytes, each at its own weight. -/
theorem septets_eq_sum {bytes : List UInt8} (h : BytesAt image.bytes offset bytes) :
    septets bytes = ∑ k ∈ Finset.range bytes.length, image.byte (offset + k) % 128 * 128 ^ k := by
  induction bytes generalizing offset with
  | nil => rfl
  | cons b rest ih =>
    obtain ⟨hb, hrest⟩ := bytesAt_cons.1 h
    have hbyte : image.byte offset = b.toNat := Bytes.byteAt_eq hb
    have hshift : ∀ k, image.byte (offset + (k + 1)) % 128 * 128 ^ (k + 1) =
        128 * (image.byte (offset + 1 + k) % 128 * 128 ^ k) := by
      intro k
      rw [← Nat.add_assoc, Nat.add_right_comm, pow_succ', Nat.mul_left_comm]
    rw [septets, ih hrest, List.length_cons, Finset.sum_range_succ', Finset.mul_sum]
    simp only [hshift, Nat.add_zero, hbyte, pow_zero, Nat.mul_one]
    rw [Nat.add_comm]

/-- A read of a number succeeds where the first byte without the high bit is one of the first five, and
gives the sum of the groups up to it, cut to a word. -/
theorem ulebAt_eq_ok_iff_sum {value length : Nat} :
    image.ulebAt offset = .ok (value, length) ↔
      1 ≤ length ∧ length ≤ 5 ∧ offset + length ≤ image.size ∧
      (∀ k < length - 1, 0x80 ≤ image.byte (offset + k)) ∧
      image.byte (offset + (length - 1)) < 0x80 ∧
      value = (∑ k ∈ Finset.range length, image.byte (offset + k) % 128 * 128 ^ k) % 2 ^ 32 := by
  rw [ulebAt_eq_ok_iff, UlebAt]
  constructor
  · rintro ⟨high, last, hbytes, hhigh, hlast, hfive, rfl, rfl⟩
    have hlength : (high ++ [last]).length = high.length + 1 := by simp
    have hend : image.bytes[offset + high.length]? = some last := by
      simpa using hbytes high.length (by omega)
    have hin : offset + high.length < image.size := Bytes.getElem?_lt hend
    refine ⟨by omega, by omega, by omega, ?_, ?_, ?_⟩
    · intro k hk
      rw [byte_of_bytesAt hbytes (by omega), List.getElem_append_left (by omega)]
      exact hhigh _ (List.getElem_mem _)
    · rw [Nat.add_sub_cancel, byte, Bytes.byteAt_eq hend]
      exact hlast
    · rw [septets_eq_sum hbytes, hlength]
      rfl
  · rintro ⟨hpos, hfive, hin, hhigh, hlast, rfl⟩
    obtain ⟨bytes, rfl, hbytes⟩ := exists_bytesAt hin
    have hvalue := septets_eq_sum hbytes
    rcases List.eq_nil_or_concat bytes with rfl | ⟨high, last, rfl⟩
    · cases hpos
    · rw [List.concat_eq_append] at *
      have hlength : (high ++ [last]).length = high.length + 1 := by simp
      refine ⟨high, last, hbytes, ?_, ?_, by omega, hlength, ?_⟩
      · intro b hb
        obtain ⟨k, hk, rfl⟩ := List.getElem_of_mem hb
        have := hhigh k (by omega)
        rwa [byte_of_bytesAt hbytes (by omega), List.getElem_append_left hk] at this
      · rw [hlength, Nat.add_sub_cancel, byte_of_bytesAt hbytes (by omega)] at hlast
        simpa using hlast
      · rw [hvalue]
        rfl

end DexImage

namespace Septets

/-! ## Writing -/

/-- The bytes of a number in as few groups as it needs. -/
def shortest (n : Nat) : List UInt8 :=
  if n < 0x80 then [UInt8.ofNat n] else UInt8.ofNat (n % 0x80 + 0x80) :: shortest (n / 0x80)

/-- The bytes of a number with one more group, a group of zeros. -/
def pad : List UInt8 → List UInt8
  | [] => []
  | [last] => [last + 0x80, 0]
  | b :: rest => b :: pad rest

/-- The bytes that write a number: the shortest ones, and those with groups of zeros behind them. -/
inductive Writes (n : Nat) : List UInt8 → Prop
  | shortest : Writes n (shortest n)
  | padded {bytes : List UInt8} : Writes n bytes → Writes n (pad bytes)

/-- Bytes are the groups of a number: the high bit is set in all of them but the last. -/
inductive Groups : List UInt8 → Nat → Prop
  | last {b : UInt8} : b.toNat < 0x80 → Groups [b] b.toNat
  | high {b : UInt8} {rest : List UInt8} {n : Nat} : 0x80 ≤ b.toNat → Groups rest n →
      Groups (b :: rest) (b.toNat % 0x80 + 0x80 * n)

theorem groups_shortest (n : Nat) : Groups (shortest n) n := by
  fun_induction shortest n with
  | case1 n hn =>
    have hbyte : (UInt8.ofNat n).toNat = n := UInt8.toNat_ofNat_of_lt' (show n < 0x100 by omega)
    have hlast : Groups [UInt8.ofNat n] (UInt8.ofNat n).toNat := .last (by omega)
    rwa [hbyte] at hlast
  | case2 n hn ih =>
    have hbyte : (UInt8.ofNat (n % 0x80 + 0x80)).toNat = n % 0x80 + 0x80 :=
      UInt8.toNat_ofNat_of_lt' (show n % 0x80 + 0x80 < 0x100 by omega)
    have hhigh := Groups.high (b := UInt8.ofNat (n % 0x80 + 0x80)) (by omega) ih
    rwa [hbyte, show (n % 0x80 + 0x80) % 0x80 + 0x80 * (n / 0x80) = n by omega] at hhigh

theorem Groups.pad {bytes : List UInt8} {n : Nat} (h : Groups bytes n) : Groups (pad bytes) n := by
  induction h with
  | @last b hb =>
    have hbyte : (b + 0x80).toNat = b.toNat + 0x80 := by
      rw [UInt8.toNat_add]
      exact Nat.mod_eq_of_lt (show b.toNat + 0x80 < 0x100 by omega)
    have hhigh := Groups.high (b := b + 0x80) (by omega) (.last (show (0 : UInt8).toNat < 0x80 by decide))
    rwa [hbyte, UInt8.toNat_zero, show (b.toNat + 0x80) % 0x80 + 0x80 * 0 = b.toNat by omega] at hhigh
  | @high b rest n hb hrest ih =>
    cases rest with
    | nil => cases hrest
    | cons => exact .high hb ih

theorem Writes.groups {n : Nat} {bytes : List UInt8} (h : Writes n bytes) : Groups bytes n := by
  induction h with
  | shortest => exact groups_shortest n
  | padded _ ih => exact ih.pad

theorem Groups.exists_last {bytes : List UInt8} {n : Nat} (h : Groups bytes n) :
    ∃ high last, bytes = high ++ [last] ∧ (∀ b ∈ high, 0x80 ≤ b.toNat) ∧ last.toNat < 0x80 ∧
      septets bytes = n := by
  induction h with
  | @last b hb => exact ⟨[], b, rfl, by simp, hb, by simp [septets, Nat.mod_eq_of_lt hb]⟩
  | @high b rest n hb _ ih =>
    obtain ⟨high, last, rfl, hhigh, hlast, hvalue⟩ := ih
    exact ⟨b :: high, last, rfl, List.forall_mem_cons.2 ⟨hb, hhigh⟩, hlast, by
      rw [septets, hvalue]⟩

/-- A number of a word is read back from the bytes that write it, whatever stands around them. -/
theorem ulebAt_of_writes {image : DexImage} {offset n : Nat} {bytes : List UInt8}
    (hwrites : Writes n bytes) (hn : n < 2 ^ 32) (hlength : bytes.length ≤ 5)
    (hbytes : BytesAt image.bytes offset bytes) :
    image.ulebAt offset = .ok (n, bytes.length) := by
  obtain ⟨high, last, rfl, hhigh, hlast, hvalue⟩ := hwrites.groups.exists_last
  have hsize : (high ++ [last]).length = high.length + 1 := by simp
  refine DexImage.ulebAt_eq_ok_iff.2 ⟨high, last, hbytes, hhigh, hlast, by omega, hsize, ?_⟩
  rw [hvalue]
  exact (Nat.mod_eq_of_lt hn).symm

/-! ## The shortest bytes -/

theorem length_shortest_le {n k : Nat} (h : n < 128 ^ (k + 1)) : (shortest n).length ≤ k + 1 := by
  induction k generalizing n with
  | zero =>
    rw [shortest, if_pos (by simpa using h)]
    rfl
  | succ k ih =>
    rw [shortest]
    split
    · simp
    · rw [pow_succ] at h
      exact Nat.succ_le_succ (ih (Nat.div_lt_of_lt_mul (by omega)))

theorem septets_lt (bytes : List UInt8) : septets bytes < 128 ^ bytes.length := by
  induction bytes with
  | nil => simp [septets]
  | cons b rest ih =>
    rw [septets, List.length_cons, pow_succ]
    omega

/-- No number is read from fewer bytes than its shortest ones. -/
theorem length_shortest_le_of_ulebAt {image : DexImage} {offset n length : Nat}
    (h : image.ulebAt offset = .ok (n, length)) : (shortest n).length ≤ length := by
  obtain ⟨high, last, -, -, -, -, rfl, rfl⟩ := DexImage.ulebAt_eq_ok_iff.1 h
  have hbound := septets_lt (high ++ [last])
  rw [List.length_append, List.length_singleton] at hbound
  exact length_shortest_le (Nat.lt_of_le_of_lt (Nat.mod_le _ _) hbound)

end Septets

/-! ## The law -/

/-- A number is read as words of thirty-two bits would read it. It is there where one of the first five
bytes lies in the file without the high bit and those in front of it with it, and is the sum of their
groups, cut to a word. Otherwise the first missing byte is named, or the place of five bytes that all
have the high bit. So every number of a word is read back from the bytes that write it, with their
number, and no number has fewer bytes than its shortest ones. -/
theorem numbers_are_read_as_their_groups_say (image : DexImage) (offset : Nat) :
    image.ulebAt offset =
      (image.ulebWords offset 5 0 0).map (fun (word, length) => (word.toNat, length)) ∧
    (∀ value length, image.ulebAt offset = .ok (value, length) ↔
      1 ≤ length ∧ length ≤ 5 ∧ offset + length ≤ image.size ∧
      (∀ k < length - 1, 0x80 ≤ image.byte (offset + k)) ∧
      image.byte (offset + (length - 1)) < 0x80 ∧
      value = (∑ k ∈ Finset.range length, image.byte (offset + k) % 128 * 128 ^ k) % 2 ^ 32) ∧
    (∀ place, image.ulebAt offset = .error (.pastEnd place) ↔
      ∃ k < 5, place = offset + k ∧ image.size ≤ place ∧
        ∀ j < k, offset + j < image.size ∧ 0x80 ≤ image.byte (offset + j)) ∧
    (∀ place, image.ulebAt offset = .error (.longUleb place) ↔
      place = offset ∧ offset + 5 ≤ image.size ∧ ∀ k < 5, 0x80 ≤ image.byte (offset + k)) ∧
    ∀ n < 2 ^ 32, (Septets.shortest n).length ≤ 5 ∧
      (∀ length, image.ulebAt offset = .ok (n, length) → (Septets.shortest n).length ≤ length) ∧
      ∀ bytes, Septets.Writes n bytes → bytes.length ≤ 5 → BytesAt image.bytes offset bytes →
        image.ulebAt offset = .ok (n, bytes.length) := by
  refine ⟨image.ulebAt_eq_words offset, fun _ _ => DexImage.ulebAt_eq_ok_iff_sum,
    fun _ => DexImage.ulebAt_eq_pastEnd_iff, fun _ => DexImage.ulebAt_eq_longUleb_iff, ?_⟩
  intro n hn
  refine ⟨Septets.length_shortest_le (k := 4) (Nat.lt_trans hn (by decide)), ?_, ?_⟩
  · intro length h
    exact Septets.length_shortest_le_of_ulebAt h
  · intro bytes hwrites hlength hbytes
    exact Septets.ulebAt_of_writes hwrites hn hlength hbytes

/-- The number 300 with one group of zeros, between other bytes. Behind it five bytes, whose last one
does not fit a word. -/
def paddedFile : DexImage :=
  ⟨⟨#[0xFF, 0xAC, 0x82, 0x00, 0xFF, 0x80, 0x80, 0x80, 0x7F]⟩⟩

theorem writes_three_hundred : Septets.Writes 300 [0xAC, 0x82, 0x00] := by
  have hpad : Septets.pad (Septets.shortest 300) = [0xAC, 0x82, 0x00] := by
    rw [Septets.shortest, if_neg (by decide), Septets.shortest, if_pos (by decide)]
    decide
  exact hpad ▸ .padded .shortest

theorem padded_bytes_are_read_and_long_ones_are_cut :
    (300 < 2 ^ 32 ∧ Septets.Writes 300 [0xAC, 0x82, 0x00] ∧ [(0xAC : UInt8), 0x82, 0x00].length ≤ 5 ∧
      BytesAt paddedFile.bytes 1 [0xAC, 0x82, 0x00]) ∧
    paddedFile.ulebAt 1 = .ok (300, 3) ∧ paddedFile.ulebAt 4 = .ok (0xF000007F, 5) := by
  obtain ⟨-, -, -, -, hread⟩ := numbers_are_read_as_their_groups_say paddedFile 1
  obtain ⟨-, hsum, -⟩ := numbers_are_read_as_their_groups_say paddedFile 4
  have hbytes : BytesAt paddedFile.bytes 1 [0xAC, 0x82, 0x00] := by
    unfold BytesAt
    decide +kernel
  have hlength : [(0xAC : UInt8), 0x82, 0x00].length ≤ 5 := by decide
  refine ⟨⟨by decide, writes_three_hundred, hlength, hbytes⟩, ?_, (hsum _ _).2 ?_⟩
  · exact (hread 300 (by decide)).2.2 _ writes_three_hundred hlength hbytes
  · decide +kernel

end AppBoundary
