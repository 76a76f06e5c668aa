-- Strings of compiled code, written as the format has them: in units of sixteen
-- bits, with two surrogates for a character beyond the first plane. The reader
-- decodes them as plain UTF-8, so such a character is lost, and classes whose
-- names differ in such characters alone are listed under one descriptor.
import AppBoundary.Proofs.Dex.Owners
import AppBoundary.Proofs.Text.ModifiedUtf8

namespace AppBoundary

namespace DexLayout

/-! ## Written texts -/

section

variable (data : ByteArray)

/-- The string of an index is written as the format has it: the number of its units, its modified form
and a zero byte. -/
def WrittenStringAt (index : Nat) (text : String) : Prop :=
  ∃ count table offset length,
    TableAt data 0x38 count table ∧ index < count ∧ U32At data (table + index * 4) offset ∧
    UlebAt data offset (Text.utf16Length text) length ∧
    BytesAt data (offset + length) (Text.modifiedUtf8 text ++ [0])

/-- The descriptor of a type index is written so. -/
def WrittenTypeAt (index : Nat) (descriptor : String) : Prop :=
  ∃ count table string,
    TableAt data 0x40 count table ∧ index < count ∧ U32At data (table + index * 4) string ∧
    WrittenStringAt data string descriptor

/-- The descriptor of class definition `i` is written so. -/
def WrittenClassAt (i : Nat) (descriptor : String) : Prop :=
  ∃ count offset type,
    WholeTableAt data 0x60 32 count offset ∧ i < count ∧ U32At data (offset + i * 32) type ∧
    WrittenTypeAt data type descriptor

end

variable {data : ByteArray}

/-! ## What is read there -/

theorem WrittenStringAt.stringAt {index : Nat} {text : String}
    (h : WrittenStringAt data index text) : StringAt data index (Text.lenientReading text) := by
  obtain ⟨count, table, offset, length, htable, hindex, hoffset, hlength, hbytes⟩ := h
  exact ⟨count, table, offset, _, length, Text.modifiedUtf8 text, htable, hindex, hoffset, hlength,
    ⟨Text.zero_not_mem_modifiedUtf8 text, hbytes⟩, (Text.decodeLenient_modifiedUtf8 text).symm⟩

theorem WrittenTypeAt.typeAt {index : Nat} {descriptor : String}
    (h : WrittenTypeAt data index descriptor) :
    TypeAt data index (Text.lenientReading descriptor) := by
  obtain ⟨count, table, string, htable, hindex, hstring, hwritten⟩ := h
  exact ⟨count, table, string, htable, hindex, hstring, hwritten.stringAt⟩

theorem U32At.unique {offset n m : Nat} (h : U32At data offset n) (hother : U32At data offset m) :
    n = m := by
  have hread : DexImage.u32At ⟨data⟩ offset = .ok n := DexImage.u32At_eq_ok_iff.2 h
  rw [DexImage.u32At_eq_ok_iff.2 hother, Except.ok.injEq] at hread
  exact hread.symm

theorem TypeAt.unique {index : Nat} {descriptor other : String} (h : TypeAt data index descriptor)
    (hother : TypeAt data index other) : descriptor = other := by
  have hread : DexImage.typeAt ⟨data⟩ index = .ok descriptor := DexImage.typeAt_eq_ok_iff.2 h
  rw [DexImage.typeAt_eq_ok_iff.2 hother, Except.ok.injEq] at hread
  exact hread.symm

theorem WrittenClassAt.getElem? {classes : List String} (hclasses : ClassesAt data classes) {i : Nat}
    {descriptor : String} (h : WrittenClassAt data i descriptor) :
    classes[i]? = some (Text.lenientReading descriptor) := by
  obtain ⟨offset, ⟨⟨hcount, hoffset⟩, -⟩, hread⟩ := hclasses
  obtain ⟨count, offset', type, ⟨⟨hcount', hoffset'⟩, -⟩, hi, htype, hwritten⟩ := h
  obtain rfl := hcount.unique hcount'
  obtain rfl := hoffset.unique hoffset'
  obtain ⟨type', htype', hdescriptor⟩ := hread i hi
  obtain rfl := htype.unique htype'
  rw [List.getElem?_eq_getElem hi, hdescriptor.unique hwritten.typeAt]

end DexLayout

open DexLayout (WrittenStringAt WrittenClassAt)

/-! ## The law -/

/-- A string that is written in modified form comes back as it is exactly when each of its characters
has one unit and none is the zero character: a character of two units comes back as six replacement
characters, a zero character as two. So two classes of a file are listed under one descriptor exactly
when their descriptors are the same after that, and where all characters have one unit, exactly when
they are the same. -/
theorem strings_come_back_but_for_characters_of_two_units (image : DexImage) :
    (∀ (index : Nat) (text : String), WrittenStringAt image.bytes index text →
      image.stringAt index = .ok (Text.lenientReading text) ∧
      (image.stringAt index = .ok text ↔ ∀ c ∈ text.toList, Text.IsPlain c)) ∧
    ∀ (path : Path) (index : ClassIndex), ClassIndex.ofBytes image.bytes path = .ok index →
      ∀ (i j : Nat) (first second : String), WrittenClassAt image.bytes i first →
        WrittenClassAt image.bytes j second →
        index.classes[i]? = some (Text.lenientReading first) ∧
        (index.classes[i]? = index.classes[j]? ↔
          Text.lenientReading first = Text.lenientReading second) ∧
        ((∀ c ∈ first.toList ++ second.toList, Text.IsPlain c) →
          (index.classes[i]? = index.classes[j]? ↔ first = second)) := by
  refine ⟨fun index text h => ?_, fun path index h i j first second hi hj => ?_⟩
  · have hread : image.stringAt index = .ok (Text.lenientReading text) :=
      DexImage.stringAt_eq_ok_iff.2 h.stringAt
    refine ⟨hread, ?_⟩
    rw [hread, Except.ok.injEq, Text.lenientReading_eq_self_iff]
  · rw [ClassIndex.ofBytes_eq_ok_iff, ClassIndex.read_eq_ok_iff] at h
    obtain ⟨-, hclasses, -⟩ := h
    have hfirst := hi.getElem? hclasses
    have halike : index.classes[i]? = index.classes[j]? ↔
        Text.lenientReading first = Text.lenientReading second := by
      rw [hfirst, hj.getElem? hclasses, Option.some.injEq]
    refine ⟨hfirst, halike, fun hplain => ?_⟩
    rw [List.forall_mem_append] at hplain
    rw [halike, Text.lenientReading_eq_self_iff.2 hplain.1,
      Text.lenientReading_eq_self_iff.2 hplain.2]

/-! ## Classes listed as one -/

/-- The descriptors of four classes. The letters of the first two have two units each. -/
def letterClasses : List String :=
  ["L𐐀;", "L𐐁;", "Lé;", "Lж;"]

/-- The places of their strings in the file. -/
def letterPlaces : List Nat :=
  [0x90, 0x9A, 0xA4, 0xAA]

/-- A file with these classes and no methods. -/
def letterFile : ByteArray :=
  ⟨([0x64, 0x65, 0x78, 0x0A, 0x30, 0x33, 0x35, 0x00] ++ List.replicate 48 0
    -- Counts and places of the tables: strings, types, prototypes, fields, methods, classes.
    ++ [4, 0x70, 4, 0x80, 0, 0, 0, 0, 0, 0, 4, 0xB0, 0, 0].flatMap smallWord
    -- The places of the strings, the strings of the types.
    ++ [0x90, 0x9A, 0xA4, 0xAA, 0, 1, 2, 3].flatMap smallWord
    ++ [4, 0x4C, 0xED, 0xA0, 0x81, 0xED, 0xB0, 0x80, 0x3B, 0]
    ++ [4, 0x4C, 0xED, 0xA0, 0x81, 0xED, 0xB0, 0x81, 0x3B, 0]
    ++ [3, 0x4C, 0xC3, 0xA9, 0x3B, 0] ++ [3, 0x4C, 0xD0, 0xB6, 0x3B, 0]
    -- The classes.
    ++ [0, 1, 2, 3].flatMap (fun i => smallWord i ++ List.replicate 28 0)).toArray⟩

theorem written_letterFile (i : Nat) (h : i < letterClasses.length) :
    WrittenStringAt letterFile i letterClasses[i] ∧ WrittenClassAt letterFile i letterClasses[i] := by
  have htable : ∀ field table, DexImage.tableAt ⟨letterFile⟩ field = .ok ⟨4, table⟩ →
      DexLayout.TableAt letterFile field 4 table := fun _ _ hread => DexImage.tableAt_eq_ok_iff.1 hread
  have hstrings := htable 0x38 0x70 (eq_ok_of_toOption (by decide +kernel))
  have htypes := htable 0x40 0x80 (eq_ok_of_toOption (by decide +kernel))
  have hclasses := htable 0x60 0xB0 (eq_ok_of_toOption (by decide +kernel))
  have hwords : ∀ i (h : i < letterPlaces.length),
      Bytes.u32? letterFile (0x70 + i * 4) = some letterPlaces[i] ∧
      Bytes.u32? letterFile (0x80 + i * 4) = some i ∧
      Bytes.u32? letterFile (0xB0 + i * 32) = some i := by
    decide +kernel
  have hitems : ∀ i (h : i < letterClasses.length) (h' : i < letterPlaces.length),
      (DexImage.ulebAt ⟨letterFile⟩ letterPlaces[i]).toOption =
        some (Text.utf16Length letterClasses[i], 1) ∧
      ∀ k (hk : k < (Text.modifiedUtf8 letterClasses[i] ++ [0]).length),
        letterFile[letterPlaces[i] + 1 + k]? = some (Text.modifiedUtf8 letterClasses[i] ++ [0])[k] := by
    decide +kernel
  obtain ⟨hplace, htype, hclass⟩ := hwords i h
  obtain ⟨hlength, hbytes⟩ := hitems i h h
  have hwritten : WrittenStringAt letterFile i letterClasses[i] :=
    ⟨4, 0x70, _, 1, hstrings, h, Bytes.u32?_eq_some_iff.1 hplace,
      DexImage.ulebAt_eq_ok_iff.1 (eq_ok_of_toOption hlength), hbytes⟩
  exact ⟨hwritten, 4, 0xB0, i, ⟨hclasses, by decide +kernel⟩, h, Bytes.u32?_eq_some_iff.1 hclass,
    4, 0x80, i, htypes, h, Bytes.u32?_eq_some_iff.1 htype, hwritten⟩

theorem ofBytes_letterFile : ClassIndex.ofBytes letterFile ⟨"classes.dex"⟩ =
    .ok ⟨["L\uFFFD\uFFFD\uFFFD\uFFFD\uFFFD\uFFFD;", "L\uFFFD\uFFFD\uFFFD\uFFFD\uFFFD\uFFFD;", "Lé;",
      "Lж;"], []⟩ :=
  eq_ok_of_toOption (by decide +kernel)

/-- The letter of two units does not come back, and two classes of such letters are listed alike. The
letters of one unit come back, and their classes are told apart. -/
theorem letters_of_two_units_are_lost :
    DexImage.stringAt ⟨letterFile⟩ 0 ≠ .ok "L𐐀;" ∧ DexImage.stringAt ⟨letterFile⟩ 2 = .ok "Lé;" ∧
      ∃ index, ClassIndex.ofBytes letterFile ⟨"classes.dex"⟩ = .ok index ∧
        index.classes[0]? = index.classes[1]? ∧ index.classes[2]? ≠ index.classes[3]? := by
  obtain ⟨hstring, hclass⟩ := strings_come_back_but_for_characters_of_two_units ⟨letterFile⟩
  have hwritten := fun i h => (written_letterFile i h).1
  have hclasses := fun i h => (written_letterFile i h).2
  refine ⟨?_, ?_, _, ofBytes_letterFile, ?_, ?_⟩
  · rw [ne_eq, (hstring 0 "L𐐀;" (hwritten 0 (by decide))).2]
    simp [Text.IsPlain]
  · exact (hstring 2 "Lé;" (hwritten 2 (by decide))).2.2 (by simp [Text.IsPlain])
  · exact (hclass _ _ ofBytes_letterFile 0 1 "L𐐀;" "L𐐁;" (hclasses 0 (by decide))
      (hclasses 1 (by decide))).2.1.2 (by decide)
  · rw [ne_eq, (hclass _ _ ofBytes_letterFile 2 3 "Lé;" "Lж;" (hclasses 2 (by decide))
      (hclasses 3 (by decide))).2.2 (by simp [Text.IsPlain])]
    decide

/-- The string written as `L𐐀;`, without a zero character, is not read as that, and the classes `L𐐀;`
and `L𐐁;` are read as the same descriptor. -/
theorem two_classes_are_read_as_one :
    '\x00' ∉ "L𐐀;".toList ∧ WrittenStringAt letterFile 0 "L𐐀;" ∧
      DexImage.stringAt ⟨letterFile⟩ 0 ≠ .ok "L𐐀;" ∧
      WrittenClassAt letterFile 0 "L𐐀;" ∧ WrittenClassAt letterFile 1 "L𐐁;" ∧ "L𐐀;" ≠ "L𐐁;" ∧
      ∃ index descriptor, ClassIndex.ofBytes letterFile ⟨"classes.dex"⟩ = .ok index ∧
        index.classes[0]? = some descriptor ∧ index.classes[1]? = some descriptor := by
  obtain ⟨hstring, hfirst⟩ := written_letterFile 0 (by decide)
  have hsecond := (written_letterFile 1 (by decide)).2
  have hread : DexImage.stringAt ⟨letterFile⟩ 0 =
      .ok "L\uFFFD\uFFFD\uFFFD\uFFFD\uFFFD\uFFFD;" := eq_ok_of_toOption (by decide +kernel)
  refine ⟨by decide, hstring, ?_, hfirst, hsecond, by decide, _, _, ofBytes_letterFile, rfl, rfl⟩
  rw [hread, ne_eq, Except.ok.injEq]
  decide

end AppBoundary
