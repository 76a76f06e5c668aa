-- The reader of compiled code against its layout: each read succeeds exactly
-- where the bytes stand as the layout says, and gives what they say.
import AppBoundary.Dex.Index
import AppBoundary.Proofs.Dex.Layout
import AppBoundary.Proofs.Sequencing

namespace AppBoundary

open DexLayout

/-! ## Bytes -/

namespace Bytes

variable {data : ByteArray} {offset n : Nat} {b : UInt8}

theorem getElem?_lt (h : data[offset]? = some b) : offset < data.size := by
  by_contra hn
  rw [getElem?_neg data offset hn] at h
  cases h

theorem exists_byte (data : ByteArray) (h : offset < data.size) : ∃ b : UInt8, data[offset]? = some b :=
  ⟨data[offset], getElem?_pos data offset h⟩

theorem byteAt_eq (h : data[offset]? = some b) : byteAt data offset = b.toNat := by
  simp [byteAt, h]

theorem u16?_eq_some_iff : u16? data offset = some n ↔ U16At data offset n := by
  unfold u16? U16At
  constructor
  · intro h
    split at h
    · obtain ⟨a, ha⟩ := exists_byte data (show offset < data.size by omega)
      obtain ⟨b, hb⟩ := exists_byte data (show offset + 1 < data.size by omega)
      simp only [numberAt, byteAt_eq ha, byteAt_eq hb, Option.some.injEq] at h
      exact ⟨a, b, by simp [ha, hb], h.symm⟩
    · cases h
  · rintro ⟨a, b, hbytes, rfl⟩
    simp only [bytesAt_cons, bytesAt_nil, and_true] at hbytes
    obtain ⟨ha, hb⟩ := hbytes
    have hin := getElem?_lt hb
    rw [if_pos (by omega)]
    simp [numberAt, byteAt_eq ha, byteAt_eq hb]

theorem u32?_eq_some_iff : u32? data offset = some n ↔ U32At data offset n := by
  unfold u32? U32At
  constructor
  · intro h
    split at h
    · obtain ⟨a, ha⟩ := exists_byte data (show offset < data.size by omega)
      obtain ⟨b, hb⟩ := exists_byte data (show offset + 1 < data.size by omega)
      obtain ⟨c, hc⟩ := exists_byte data (show offset + 1 + 1 < data.size by omega)
      obtain ⟨d, hd⟩ := exists_byte data (show offset + 1 + 1 + 1 < data.size by omega)
      simp only [numberAt, byteAt_eq ha, byteAt_eq hb, byteAt_eq hc, byteAt_eq hd,
        Option.some.injEq] at h
      exact ⟨a, b, c, d, by simp [ha, hb, hc, hd], by omega⟩
    · cases h
  · rintro ⟨a, b, c, d, hbytes, rfl⟩
    simp only [bytesAt_cons, bytesAt_nil, and_true] at hbytes
    obtain ⟨ha, hb, hc, hd⟩ := hbytes
    have hin := getElem?_lt hd
    rw [if_pos (by omega)]
    simp only [numberAt, byteAt_eq ha, byteAt_eq hb, byteAt_eq hc, byteAt_eq hd,
      Option.some.injEq]
    omega

end Bytes

namespace DexImage

variable {image : DexImage}

/-! ## Numbers -/

theorem u16At_eq_ok_iff {offset n : Nat} :
    image.u16At offset = .ok n ↔ U16At image.bytes offset n := by
  rw [← Bytes.u16?_eq_some_iff, u16At]
  cases Bytes.u16? image.bytes offset <;> simp

theorem u32At_eq_ok_iff {offset n : Nat} :
    image.u32At offset = .ok n ↔ U32At image.bytes offset n := by
  rw [← Bytes.u32?_eq_some_iff, u32At]
  cases Bytes.u32? image.bytes offset <;> simp

section
variable {start left i value length : Nat} {b : UInt8}

theorem ulebGroups_outside (h : image.size ≤ start + i) :
    image.ulebGroups start (left + 1) i = .error (.pastEnd (start + i)) := by
  rw [ulebGroups, if_neg (by omega)]

theorem ulebGroups_last (h : image.bytes[start + i]? = some b) (hlow : b.toNat < 0x80) :
    image.ulebGroups start (left + 1) i = .ok (b.toNat, i + 1) := by
  have hin : start + i < image.size := Bytes.getElem?_lt h
  rw [ulebGroups, if_pos hin]
  simp only [byte, Bytes.byteAt_eq h]
  rw [if_pos hlow]

theorem ulebGroups_high (h : image.bytes[start + i]? = some b) (hhigh : 0x80 ≤ b.toNat) :
    image.ulebGroups start (left + 1) i =
      (image.ulebGroups start left (i + 1)).map fun (value, length) =>
        (b.toNat % 0x80 + 0x80 * value, length) := by
  have hin : start + i < image.size := Bytes.getElem?_lt h
  rw [ulebGroups, if_pos hin]
  simp only [byte, Bytes.byteAt_eq h]
  rw [if_neg (by omega)]

/-- The groups from byte `i` on: some bytes with the high bit and one without it, together no more
than may be read. -/
theorem ulebGroups_eq_ok_iff :
    image.ulebGroups start left i = .ok (value, length) ↔
      ∃ (high : List UInt8) (last : UInt8), BytesAt image.bytes (start + i) (high ++ [last]) ∧
        (∀ b ∈ high, 0x80 ≤ b.toNat) ∧ last.toNat < 0x80 ∧ high.length < left ∧
        length = i + high.length + 1 ∧ value = septets (high ++ [last]) := by
  induction left generalizing i value length with
  | zero => simp [ulebGroups]
  | succ left ih =>
    constructor
    · intro h
      by_cases hin : start + i < image.size
      · obtain ⟨b, hb⟩ := Bytes.exists_byte image.bytes hin
        by_cases hlow : b.toNat < 0x80
        · rw [ulebGroups_last hb hlow] at h
          cases h
          exact ⟨[], b, by simp [hb], by simp, hlow, by simp, by simp, by simp [septets]; omega⟩
        · rw [ulebGroups_high hb (by omega), Except.map_eq_ok_iff] at h
          obtain ⟨⟨v, l⟩, hrest, hv⟩ := h
          cases hv
          obtain ⟨high, last, hbytes, hhigh, hlast, hlen, rfl, rfl⟩ := ih.1 hrest
          refine ⟨b :: high, last, ?_, ?_, hlast, ?_, ?_, by simp [septets]⟩
          · exact bytesAt_cons.2 ⟨hb, hbytes⟩
          · exact List.forall_mem_cons.2 ⟨by omega, hhigh⟩
          · simpa using hlen
          · simp only [List.length_cons]
            omega
      · rw [ulebGroups_outside (by omega)] at h
        cases h
    · rintro ⟨high, last, hbytes, hhigh, hlast, hlen, rfl, rfl⟩
      cases high with
      | nil =>
        rw [ulebGroups_last (bytesAt_cons.1 hbytes).1 hlast]
        simp [septets, Nat.mod_eq_of_lt hlast]
      | cons b high =>
        obtain ⟨hb, hrest⟩ := bytesAt_cons.1 hbytes
        obtain ⟨hbhigh, hhigh⟩ := List.forall_mem_cons.1 hhigh
        have hgroups : image.ulebGroups start left (i + 1) =
            .ok (septets (high ++ [last]), i + 1 + high.length + 1) :=
          ih.2 ⟨high, last, hrest, hhigh, hlast, by simpa using hlen, rfl, rfl⟩
        rw [ulebGroups_high hb hbhigh, Except.map_eq_ok_iff]
        refine ⟨_, hgroups, ?_⟩
        simp only [septets, List.cons_append, List.length_cons, Nat.add_assoc, Nat.add_comm 1]

theorem ulebAt_eq_ok_iff {offset : Nat} :
    image.ulebAt offset = .ok (value, length) ↔ UlebAt image.bytes offset value length := by
  unfold ulebAt UlebAt
  rw [Except.map_eq_ok_iff]
  constructor
  · rintro ⟨⟨v, l⟩, h, hv⟩
    cases hv
    obtain ⟨high, last, hbytes, hhigh, hlast, hlen, rfl, rfl⟩ := ulebGroups_eq_ok_iff.1 h
    exact ⟨high, last, hbytes, hhigh, hlast, hlen, by omega, rfl⟩
  · rintro ⟨high, last, hbytes, hhigh, hlast, hlen, rfl, rfl⟩
    refine ⟨_, ulebGroups_eq_ok_iff.2 ⟨high, last, hbytes, hhigh, hlast, hlen, rfl, rfl⟩, ?_⟩
    simp

end

/-! ## Tables -/

theorem tableAt_eq_ok_iff {field : Nat} {t : DexTable} :
    image.tableAt field = .ok t ↔ TableAt image.bytes field t.count t.offset := by
  simp only [tableAt, bind_eq_ok_iff, u32At_eq_ok_iff, pure_eq_ok_iff, TableAt]
  constructor
  · rintro ⟨count, hcount, offset, hoffset, rfl⟩
    exact ⟨hcount, hoffset⟩
  · rintro ⟨hcount, hoffset⟩
    exact ⟨_, hcount, _, hoffset, rfl⟩

theorem wholeTable_eq_ok_iff {field itemSize : Nat} {t : DexTable} :
    image.wholeTable field itemSize = .ok t ↔
      WholeTableAt image.bytes field itemSize t.count t.offset := by
  simp only [wholeTable, bind_eq_ok_iff, tableAt_eq_ok_iff, WholeTableAt]
  constructor
  · rintro ⟨t', ht, h⟩
    split at h
    · rename_i hfits
      cases h
      exact ⟨ht, hfits⟩
    · cases h
  · rintro ⟨ht, hfits⟩
    refine ⟨t, ht, ?_⟩
    rw [if_pos (show t.offset + t.count * itemSize ≤ image.size from hfits)]
    rfl

/-! ## Strings and types -/

theorem untilZero_eq_some_iff {offset : Nat} {characters : List UInt8} :
    image.untilZero offset = some characters ↔
      CharactersAt image.bytes offset characters := by
  fun_induction untilZero image offset generalizing characters with
  | case1 offset hin hzero =>
    have hget : image.bytes[offset]? = some 0 := by rw [getElem?_pos image.bytes offset hin, hzero]
    constructor
    · intro h
      cases h
      simp [CharactersAt, hget]
    · rintro ⟨hnot, hbytes⟩
      cases characters with
      | nil => rfl
      | cons b rest =>
        simp only [List.cons_append, bytesAt_cons, hget, Option.some.injEq] at hbytes
        simp [← hbytes.1] at hnot
  | case2 offset hin hzero ih =>
    have hget := getElem?_pos image.bytes offset hin
    constructor
    · intro h
      obtain ⟨rest, hrest, rfl⟩ := Option.map_eq_some_iff.1 h
      obtain ⟨hnot, hbytes⟩ := ih.1 hrest
      refine ⟨?_, bytesAt_cons.2 ⟨hget, hbytes⟩⟩
      simpa using ⟨fun h0 => hzero h0.symm, hnot⟩
    · rintro ⟨hnot, hbytes⟩
      cases characters with
      | nil =>
        simp only [List.nil_append, bytesAt_cons, hget, Option.some.injEq] at hbytes
        exact absurd hbytes.1 hzero
      | cons b rest =>
        obtain ⟨hb, hrest⟩ := bytesAt_cons.1 hbytes
        rw [hget, Option.some.injEq] at hb
        rw [Option.map_eq_some_iff]
        exact ⟨rest, ih.2 ⟨fun h0 => hnot (List.mem_cons_of_mem _ h0), hrest⟩, by rw [hb]⟩
  | case3 offset hout =>
    constructor
    · intro h
      cases h
    · rintro ⟨-, hbytes⟩
      have hfirst : image.bytes[offset]? = some (characters ++ [0])[0] := hbytes 0 (by simp)
      exact absurd (Bytes.getElem?_lt hfirst) hout

/-- The characters of a string lie in the file, so the check of their start finds nothing. -/
theorem start_le_size {offset : Nat} {characters : List UInt8}
    (h : CharactersAt image.bytes offset characters) : ¬ image.size < offset := by
  have hfirst : image.bytes[offset]? = some (characters ++ [0])[0] := h.2 0 (by simp)
  have hin : offset < image.size := Bytes.getElem?_lt hfirst
  omega

theorem stringAt_eq_ok_iff {index : Nat} {text : String} :
    image.stringAt index = .ok text ↔ StringAt image.bytes index text := by
  simp only [stringAt, bind_eq_ok_iff, check_eq_ok_iff, tableAt_eq_ok_iff, u32At_eq_ok_iff]
  constructor
  · rintro ⟨ids, hids, hindex, offset, hoffset, ⟨value, length⟩, hlength, -, h⟩
    split at h
    · rename_i characters hcharacters
      cases h
      exact ⟨_, _, offset, value, length, characters, hids, by omega, hoffset,
        ulebAt_eq_ok_iff.1 hlength, untilZero_eq_some_iff.1 hcharacters, rfl⟩
    · cases h
  · rintro ⟨count, table, offset, value, length, characters, hids, hindex, hoffset, hlength,
      hcharacters, rfl⟩
    refine ⟨⟨count, table⟩, hids, by simpa using hindex, offset, hoffset, (value, length),
      ulebAt_eq_ok_iff.2 hlength, start_le_size hcharacters, ?_⟩
    rw [untilZero_eq_some_iff.2 hcharacters]
    rfl

theorem typeAt_eq_ok_iff {index : Nat} {descriptor : String} :
    image.typeAt index = .ok descriptor ↔ TypeAt image.bytes index descriptor := by
  simp only [typeAt, bind_eq_ok_iff, check_eq_ok_iff, tableAt_eq_ok_iff, u32At_eq_ok_iff,
    stringAt_eq_ok_iff]
  constructor
  · rintro ⟨ids, hids, hindex, string, hstring, htext⟩
    exact ⟨_, _, string, hids, by omega, hstring, htext⟩
  · rintro ⟨count, table, string, hids, hindex, hstring, htext⟩
    exact ⟨⟨count, table⟩, hids, by simpa using hindex, string, hstring, htext⟩

/-! ## Methods -/

theorem typesAt_cons {data : ByteArray} {offset : Nat} {descriptor : String} {rest : List String} :
    TypesAt data offset (descriptor :: rest) ↔
      (∃ type, U16At data offset type ∧ TypeAt data type descriptor) ∧
        TypesAt data (offset + 2) rest := by
  constructor
  · intro h
    refine ⟨h 0 (by simp), fun i hi => ?_⟩
    have := h (i + 1) (by simpa using hi)
    rwa [show offset + (i + 1) * 2 = offset + 2 + i * 2 by omega] at this
  · rintro ⟨hfirst, hrest⟩ i hi
    cases i with
    | zero => simpa using hfirst
    | succ i =>
      rw [show offset + (i + 1) * 2 = offset + 2 + i * 2 by omega]
      exact hrest i (by simpa using hi)

theorem parametersAt_eq_ok_iff {offset count : Nat} {parameters : List String} :
    image.parametersAt offset count = .ok parameters ↔
      parameters.length = count ∧ TypesAt image.bytes offset parameters := by
  induction count generalizing offset parameters with
  | zero =>
    simp only [parametersAt, Except.ok.injEq, List.length_eq_zero_iff]
    constructor
    · rintro rfl
      exact ⟨rfl, fun i hi => absurd hi (Nat.not_lt_zero i)⟩
    · rintro ⟨rfl, -⟩
      rfl
  | succ count ih =>
    simp only [parametersAt, bind_eq_ok_iff, u16At_eq_ok_iff, typeAt_eq_ok_iff, ih, pure_eq_ok_iff]
    constructor
    · rintro ⟨type, htype, descriptor, hdescriptor, rest, ⟨hlength, hrest⟩, rfl⟩
      exact ⟨by simp [hlength], typesAt_cons.2 ⟨⟨type, htype, hdescriptor⟩, hrest⟩⟩
    · rintro ⟨hlength, htypes⟩
      cases parameters with
      | nil => cases hlength
      | cons descriptor rest =>
        obtain ⟨⟨type, htype, hdescriptor⟩, hrest⟩ := typesAt_cons.1 htypes
        exact ⟨type, htype, descriptor, hdescriptor, rest, ⟨by simpa using hlength, hrest⟩, rfl⟩

theorem protoAt_eq_ok_iff {index : Nat} {parameters : List String} {result : String} :
    image.protoAt index = .ok (parameters, result) ↔
      ProtoAt image.bytes index parameters result := by
  simp only [protoAt, bind_eq_ok_iff, check_eq_ok_iff, tableAt_eq_ok_iff, u32At_eq_ok_iff]
  constructor
  · rintro ⟨ids, hids, hindex, type, htype, list, hlist, h⟩
    refine ⟨_, _, type, list, hids, by omega, htype, hlist, ?_⟩
    unfold ParametersAt
    split at h
    · rename_i hzero
      simp only [bind_eq_ok_iff, pure_eq_ok_iff, typeAt_eq_ok_iff, Prod.mk.injEq] at h
      obtain ⟨_, rfl, _, hresult, rfl, rfl⟩ := h
      simpa [hzero] using hresult
    · rename_i hnot
      simp only [bind_eq_ok_iff, pure_eq_ok_iff, u32At_eq_ok_iff, parametersAt_eq_ok_iff,
        typeAt_eq_ok_iff, Prod.mk.injEq] at h
      obtain ⟨_, hcount, _, ⟨rfl, htypes⟩, _, hresult, rfl, rfl⟩ := h
      rw [if_neg hnot]
      exact ⟨⟨hcount, htypes⟩, hresult⟩
  · rintro ⟨count, table, type, list, hids, hindex, htype, hlist, hparameters, hresult⟩
    refine ⟨⟨count, table⟩, hids, by simpa using hindex, type, htype, list, hlist, ?_⟩
    unfold ParametersAt at hparameters
    split at hparameters
    · rename_i hzero
      subst hparameters
      simp only [if_pos hzero, bind_eq_ok_iff, pure_eq_ok_iff, typeAt_eq_ok_iff]
      exact ⟨_, rfl, _, hresult, rfl⟩
    · rename_i hnot
      simp only [if_neg hnot, bind_eq_ok_iff, pure_eq_ok_iff, u32At_eq_ok_iff,
        parametersAt_eq_ok_iff, typeAt_eq_ok_iff]
      exact ⟨_, hparameters.1, _, ⟨rfl, hparameters.2⟩, _, hresult, rfl⟩

theorem methodAt_eq_ok_iff {offset : Nat} {method : MethodReference} :
    image.methodAt offset = .ok method ↔ MethodAt image.bytes offset method := by
  simp only [methodAt, bind_eq_ok_iff, u16At_eq_ok_iff, u32At_eq_ok_iff, typeAt_eq_ok_iff,
    stringAt_eq_ok_iff, pure_eq_ok_iff]
  constructor
  · rintro ⟨owner, howner, proto, hproto, name, hname, ownerText, howner', nameText, hname',
      ⟨parameters, result⟩, hproto', rfl⟩
    exact ⟨owner, proto, name, howner, hproto, hname, howner', hname',
      protoAt_eq_ok_iff.1 hproto'⟩
  · rintro ⟨owner, proto, name, howner, hproto, hname, howner', hname', hproto'⟩
    exact ⟨owner, howner, proto, hproto, name, hname, _, howner', _, hname', _,
      protoAt_eq_ok_iff.2 hproto', rfl⟩

/-! ## The whole file -/

/-- The byte at an offset of the file is the one that is asked for. -/
theorem byte_eq_iff {offset : Nat} {b : UInt8} (h : offset < image.size) :
    image.byte offset = b.toNat ↔ image.bytes[offset]? = some b := by
  obtain ⟨a, ha⟩ := Bytes.exists_byte image.bytes h
  rw [byte, Bytes.byteAt_eq ha, ha, Option.some.injEq, UInt8.toNat_inj]

theorem hasHeader_iff : image.hasHeader = true ↔ HeaderAt image.bytes := by
  simp only [hasHeader, HeaderAt, bytesAt_cons, bytesAt_nil, and_true, Bool.and_eq_true,
    decide_eq_true_eq, beq_iff_eq, and_assoc]
  unfold headerSize
  refine and_congr_right fun hsize => ?_
  rw [← byte_eq_iff (show 0 < image.size by omega), ← byte_eq_iff (show 0 + 1 < image.size by omega),
    ← byte_eq_iff (show 0 + 1 + 1 < image.size by omega),
    ← byte_eq_iff (show 0 + 1 + 1 + 1 < image.size by omega)]
  rfl

theorem classes_eq_ok_iff {classes : List String} :
    image.classes = .ok classes ↔ ClassesAt image.bytes classes := by
  simp only [DexImage.classes, bind_eq_ok_iff, wholeTable_eq_ok_iff, mapM_range_eq_ok_iff,
    u32At_eq_ok_iff, typeAt_eq_ok_iff]
  constructor
  · rintro ⟨defs, hdefs, hcount, hitems⟩
    exact ⟨defs.offset, hcount ▸ hdefs, hitems⟩
  · rintro ⟨offset, hdefs, hitems⟩
    exact ⟨⟨_, offset⟩, hdefs, rfl, hitems⟩

theorem methods_eq_ok_iff {methods : List MethodReference} :
    image.methods = .ok methods ↔ MethodsAt image.bytes methods := by
  simp only [DexImage.methods, bind_eq_ok_iff, wholeTable_eq_ok_iff, mapM_range_eq_ok_iff,
    methodAt_eq_ok_iff]
  constructor
  · rintro ⟨ids, hids, hcount, hitems⟩
    exact ⟨ids.offset, hcount ▸ hids, hitems⟩
  · rintro ⟨offset, hids, hitems⟩
    exact ⟨⟨_, offset⟩, hids, rfl, hitems⟩

end DexImage

/-! ## What a file lists -/

theorem ClassIndex.read_eq_ok_iff {image : DexImage} {index : ClassIndex} :
    ClassIndex.read image = .ok index ↔
      HeaderAt image.bytes ∧ ClassesAt image.bytes index.classes ∧
        ∃ methods, MethodsAt image.bytes methods ∧
          index.methods = methods.map MethodReference.text := by
  simp only [ClassIndex.read, check_eq_ok_iff, bind_eq_ok_iff, DexImage.classes_eq_ok_iff,
    DexImage.methods_eq_ok_iff, pure_eq_ok_iff, Bool.not_eq_true', Bool.not_eq_false,
    DexImage.hasHeader_iff]
  constructor
  · rintro ⟨hheader, classes, hclasses, methods, hmethods, rfl⟩
    exact ⟨hheader, hclasses, methods, hmethods, rfl⟩
  · rintro ⟨hheader, hclasses, methods, hmethods, htexts⟩
    exact ⟨hheader, _, hclasses, methods, hmethods, by rw [← htexts]⟩

theorem ClassIndex.ofBytes_eq_ok_iff {data : ByteArray} {path : Path} {index : ClassIndex} :
    ClassIndex.ofBytes data path = .ok index ↔ ClassIndex.read ⟨data⟩ = .ok index := by
  unfold ClassIndex.ofBytes
  split <;> simp_all

/-- The methods of an accepted file are the spellings of the method references that its bytes give,
and its bytes give no others. -/
theorem ClassIndex.exists_methods_of_ofBytes {data : ByteArray} {path : Path} {index : ClassIndex}
    (h : ClassIndex.ofBytes data path = .ok index) :
    ∃ methods, (∀ others, MethodsAt data others ↔ others = methods) ∧
      index.methods = methods.map MethodReference.text := by
  rw [ofBytes_eq_ok_iff, read_eq_ok_iff] at h
  obtain ⟨-, -, methods, hmethods, htexts⟩ := h
  have hread : ∀ {others}, DexImage.methods ⟨data⟩ = .ok others ↔ MethodsAt data others :=
    DexImage.methods_eq_ok_iff
  refine ⟨methods, fun others => ?_, htexts⟩
  rw [← hread] at hmethods ⊢
  rw [hmethods, Except.ok.injEq, eq_comm]

/-- A file that is not accepted is malformed, and the fault names its path. -/
theorem ClassIndex.ofBytes_eq_ok_or_malformed (data : ByteArray) (path : Path) :
    (∃ index, ClassIndex.ofBytes data path = .ok index) ∨
      ∃ cause, ClassIndex.ofBytes data path = .error (.malformedIndex path cause) := by
  unfold ClassIndex.ofBytes
  cases ClassIndex.read ⟨data⟩ with
  | ok index => exact Or.inl ⟨index, rfl⟩
  | error cause => exact Or.inr ⟨cause, rfl⟩

/-- A file is accepted exactly when its bytes are laid out as compiled code, with every index below
the count of its table and everything that is read inside the file. It lists the class of every
class definition and the spelling of every method reference, in the order of their tables. -/
theorem a_file_is_accepted_exactly_as_it_is_laid_out (data : ByteArray) (path : Path)
    (classes methods : List String) :
    ClassIndex.ofBytes data path = .ok ⟨classes, methods⟩ ↔
      HeaderAt data ∧ ClassesAt data classes ∧
        ∃ references, MethodsAt data references ∧
          methods = references.map fun m =>
            m.owner ++ "->" ++ m.name ++ "(" ++ String.join m.parameters ++ ")" ++ m.result := by
  rw [ClassIndex.ofBytes_eq_ok_iff, ClassIndex.read_eq_ok_iff]
  rfl

end AppBoundary
