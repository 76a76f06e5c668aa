-- Writing in place. Patches that lie apart from each other all stand in the file
-- they are written to, whatever their order, and what lies apart from all of them
-- stays as it was.
import AppBoundary.Dex.Assembly
import AppBoundary.Proofs.Dex.Truncation

namespace AppBoundary

open DexLayout

/-! ## One patch -/

namespace Patch

variable {patch other : Patch} {data out : ByteArray} {offset n : Nat}

/-- The patch ends before a range of offsets or begins behind it. -/
def Outside (first last : Nat) (patch : Patch) : Prop :=
  patch.ending ≤ first ∨ last ≤ patch.offset

/-- One of two patches ends before the other begins. -/
def Apart (patch other : Patch) : Prop :=
  patch.Outside other.offset other.ending

/-- The bytes of the patch stand in their place. -/
def StandsIn (patch : Patch) (data : ByteArray) : Prop :=
  BytesAt data patch.offset patch.bytes

@[simp]
theorem ending_u16 : (u16 offset n).ending = offset + 2 := rfl

@[simp]
theorem ending_u32 : (u32 offset n).ending = offset + 4 := rfl

@[simp]
theorem offset_u16 : (u16 offset n).offset = offset := rfl

@[simp]
theorem offset_u32 : (u32 offset n).offset = offset := rfl

theorem u16At_of_standsIn (h : (u16 offset n).StandsIn data) (hn : n < 0x10000) :
    U16At data offset n := by
  refine ⟨_, _, h, ?_⟩
  simp only [UInt8.toNat_ofNat']
  omega

theorem u32At_of_standsIn (h : (u32 offset n).StandsIn data) (hn : n < 0x100000000) :
    U32At data offset n := by
  refine ⟨_, _, _, _, h, ?_⟩
  simp only [UInt8.toNat_ofNat']
  omega

theorem ending_le_of_write? (h : patch.write? data = some out) : patch.ending ≤ data.size := by
  unfold write? at h
  split at h
  · assumption
  · cases h

theorem exists_write? (h : patch.ending ≤ data.size) : ∃ out, patch.write? data = some out := by
  rw [write?, if_pos h]
  exact ⟨_, rfl⟩

/-- Behind the patch stand its bytes, and everywhere else what stood there before. -/
theorem getElem?_write? (h : patch.write? data = some out) (i : Nat) :
    out[i]? = if patch.offset ≤ i ∧ i < patch.ending then patch.bytes[i - patch.offset]?
      else data[i]? := by
  have hfits := ending_le_of_write? h
  rw [write?, if_pos hfits, Option.some.injEq] at h
  subst h
  unfold ending at hfits ⊢
  have hget : ∀ bytes : ByteArray, bytes[i]? = bytes.data[i]? := fun _ => rfl
  have hsize : data.data.size = data.size := rfl
  have hfront : min patch.offset data.size = patch.offset := Nat.min_eq_left (by omega)
  simp only [hget, ByteArray.data_append, ByteArray.data_extract, Array.getElem?_append,
    Array.getElem?_extract, Array.size_append, Array.size_extract, List.data_toByteArray,
    List.size_toArray, List.getElem?_toArray, hsize, hfront, Nat.min_self, Nat.sub_zero,
    Nat.zero_add]
  rcases Nat.lt_or_ge i patch.offset with hbefore | hfrom
  · have hleft : i < patch.offset + patch.bytes.length := by omega
    rw [if_pos hleft, if_pos hbefore, if_pos hbefore, if_neg (fun h => by omega)]
  · have hnot : ¬ i < patch.offset := Nat.not_lt.2 hfrom
    rcases Nat.lt_or_ge i (patch.offset + patch.bytes.length) with hwithin | hbehind
    · rw [if_pos hwithin, if_neg hnot, if_pos (And.intro hfrom hwithin)]
    · have hright : ¬ i < patch.offset + patch.bytes.length := Nat.not_lt.2 hbehind
      rw [if_neg hright, if_neg (fun h : _ ∧ _ => hright h.2)]
      split
      · rw [Nat.add_sub_cancel' hbehind]
      · exact (Array.getElem?_eq_none (by omega)).symm

theorem size_write? (h : patch.write? data = some out) : out.size = data.size := by
  have hfits := ending_le_of_write? h
  rw [write?, if_pos hfits, Option.some.injEq] at h
  unfold ending at hfits
  rw [← h, ByteArray.size_append, ByteArray.size_append, ByteArray.size_extract,
    ByteArray.size_extract, ending]
  simp
  omega

theorem standsIn_write? (h : patch.write? data = some out) : patch.StandsIn out := by
  intro i hi
  have hwithin : patch.offset ≤ patch.offset + i ∧ patch.offset + i < patch.ending := by
    unfold ending
    omega
  rw [getElem?_write? h, if_pos hwithin, Nat.add_sub_cancel_left, List.getElem?_eq_getElem hi]

/-- What stands apart from the patch stays. -/
theorem StandsIn.write? (hother : other.StandsIn data) (hapart : other.Apart patch)
    (h : patch.write? data = some out) : other.StandsIn out := by
  intro i hi
  have hout : ¬ (patch.offset ≤ other.offset + i ∧ other.offset + i < patch.ending) := by
    unfold Apart Outside ending at hapart
    unfold ending
    omega
  rw [getElem?_write? h, if_neg hout]
  exact hother i hi

/-- What is put behind the bytes leaves every patch in its place. -/
theorem StandsIn.append (h : patch.StandsIn data) (rest : ByteArray) :
    patch.StandsIn (data ++ rest) :=
  BytesAt.append rest h

theorem standsIn_append_self (data : ByteArray) (bytes : List UInt8) :
    StandsIn ⟨data.size, bytes⟩ (data ++ bytes.toByteArray) := by
  intro i hi
  have hin : data.size + i < (data ++ bytes.toByteArray).size := by
    rw [ByteArray.size_append, List.size_toByteArray]
    exact Nat.add_lt_add_left hi _
  rw [getElem?_pos (data ++ bytes.toByteArray) _ hin,
    ByteArray.getElem_append_right (Nat.le_add_right _ _)]
  simp

/-! ## Many patches -/

/-- The bytes with some patches: as many, with all of the patches in their places, and with what
stood apart from all of them. -/
structure Written (patches : List Patch) (data out : ByteArray) : Prop where
  size_eq : out.size = data.size
  stands : ∀ patch ∈ patches, patch.StandsIn out
  kept : ∀ other : Patch, (∀ patch ∈ patches, other.Apart patch) → other.StandsIn data →
    other.StandsIn out

/-- Patches that lie in the bytes and apart from each other are all written. By induction: the first
one stands before the others are written, and is kept by them. -/
theorem exists_written {patches : List Patch} (hfits : ∀ patch ∈ patches, patch.ending ≤ data.size)
    (hapart : patches.Pairwise Apart) :
    ∃ out, writeAll? patches data = some out ∧ Written patches data out := by
  induction patches generalizing data with
  | nil => exact ⟨data, rfl, rfl, by simp, fun _ _ h => h⟩
  | cons patch rest ih =>
    obtain ⟨hfirst, hrest⟩ := List.pairwise_cons.1 hapart
    obtain ⟨hfit, hfits⟩ := List.forall_mem_cons.1 hfits
    obtain ⟨next, hnext⟩ := exists_write? hfit
    have hsize := size_write? hnext
    obtain ⟨out, hout, hwritten⟩ := ih (hsize ▸ hfits) hrest
    refine ⟨out, by rw [writeAll?, hnext, Option.bind_some, hout], ?_⟩
    exact {
      size_eq := hwritten.size_eq.trans hsize
      stands := List.forall_mem_cons.2
        ⟨hwritten.kept patch hfirst (standsIn_write? hnext), hwritten.stands⟩
      kept := fun other hother hstands => by
        obtain ⟨hpatch, hothers⟩ := List.forall_mem_cons.1 hother
        exact hwritten.kept other hothers (hstands.write? hpatch hnext) }

/-- Two groups of patches, one of them before an offset and the other one behind it. -/
theorem pairwise_apart_append {before behind : List Patch} (middle : Nat)
    (hbefore : before.Pairwise Apart) (hbehind : behind.Pairwise Apart)
    (hends : ∀ patch ∈ before, patch.ending ≤ middle)
    (hbegins : ∀ patch ∈ behind, middle ≤ patch.offset) : (before ++ behind).Pairwise Apart := by
  refine List.pairwise_append.2 ⟨hbefore, hbehind, fun p hp q hq => Or.inl ?_⟩
  exact Nat.le_trans (hends p hp) (hbegins q hq)

end Patch

end AppBoundary
