-- Assembled files read back. The tables of a file lie one behind the other and
-- in front of the strings, so each number stays where it was written, and every
-- string stands behind the offset that is entered for it.
import AppBoundary.Proofs.Dex.Patches
import AppBoundary.Proofs.Text.Utf8

namespace AppBoundary

open DexLayout

namespace DexAssembly

open Patch

/-! ## The plan -/

theorem stringTable_eq : stringTable = 112 := rfl

theorem typeTable_eq (n : Nat) : typeTable n = 4 * n + 120 := by
  rw [typeTable, stringTable_eq]
  omega

theorem protoTable_eq (n : Nat) : protoTable n = 8 * n + 124 := by
  rw [protoTable, typeTable_eq]
  omega

theorem methodTable_eq (n : Nat) : methodTable n = 8 * n + 136 := by
  rw [methodTable, protoTable_eq, DexImage.protoIdSize]

theorem classTable_eq (n : Nat) : classTable n = 16 * n + 136 := by
  rw [classTable, methodTable_eq, DexImage.methodIdSize]
  omega

theorem stringData_eq (n : Nat) : stringData n = 48 * n + 136 := by
  rw [stringData, classTable_eq, DexImage.classDefSize]
  omega

/-! ## Tables apart from each other -/

section Tables

variable (n : Nat)

theorem ending_le_of_mem_header : ∀ patch ∈ header n, patch.ending ≤ stringTable := by
  simp [header, tableEntry, magic, ending, u32, DexImage.stringIds, DexImage.typeIds,
    DexImage.protoIds, DexImage.methodIds, DexImage.classDefs, stringTable, DexImage.headerSize]

theorem pairwise_header : (header n).Pairwise Apart := by
  simp [header, tableEntry, magic, Apart, Outside, ending, u32, DexImage.stringIds,
    DexImage.typeIds, DexImage.protoIds, DexImage.methodIds, DexImage.classDefs]

theorem bounds_of_mem_types :
    ∀ patch ∈ types n, typeTable n ≤ patch.offset ∧ patch.ending ≤ protoTable n := by
  simp only [types, List.forall_mem_map, List.mem_range, offset_u32, ending_u32, protoTable]
  omega

theorem pairwise_types : (types n).Pairwise Apart := by
  refine List.pairwise_map.2 (List.pairwise_lt_range.imp fun {i j} hij => Or.inl ?_)
  simp only [offset_u32, ending_u32]
  omega

theorem bounds_of_mem_proto :
    ∀ patch ∈ proto n, protoTable n ≤ patch.offset ∧ patch.ending ≤ methodTable n := by
  simp [proto, methodTable, DexImage.protoIdSize]

theorem pairwise_proto : (proto n).Pairwise Apart := by
  simp [proto, Apart, Outside]

/-- An item of a class lies in the class's own method, or at the front of its own definition. -/
theorem bounds_of_mem_classItems {i : Nat} {patch : Patch} (h : patch ∈ classItems n i) :
    methodTable n + i * 8 ≤ patch.offset ∧ patch.ending ≤ methodTable n + i * 8 + 8 ∨
      classTable n + i * 32 ≤ patch.offset ∧ patch.ending ≤ classTable n + i * 32 + 4 := by
  simp only [classItems, List.mem_cons, List.not_mem_nil, or_false, DexImage.methodIdSize,
    DexImage.classDefSize] at h
  obtain rfl | rfl | rfl | rfl := h
  · exact Or.inl ⟨by simp, by simp⟩
  · exact Or.inl ⟨by simp, by simp⟩
  · exact Or.inl ⟨by simp, by simp⟩
  · exact Or.inr ⟨by simp, by simp⟩

theorem bounds_of_mem_items : ∀ patch ∈ (List.range n).flatMap (classItems n),
    methodTable n ≤ patch.offset ∧ patch.ending ≤ stringData n := by
  have hmethods := methodTable_eq n
  have hclasses := classTable_eq n
  have hstrings := stringData_eq n
  intro patch hpatch
  obtain ⟨i, hi, hitem⟩ := List.mem_flatMap.1 hpatch
  have hin : i < n := List.mem_range.1 hi
  have hbounds := bounds_of_mem_classItems n hitem
  omega

/-- The methods lie in front of the class definitions, and both in the order of the classes. -/
theorem pairwise_items : ((List.range n).flatMap (classItems n)).Pairwise Apart := by
  have hmethods := methodTable_eq n
  have hclasses := classTable_eq n
  refine List.pairwise_flatMap.2 ⟨fun i hi => ?_, ?_⟩
  · have hin : i < n := List.mem_range.1 hi
    simp [classItems, Apart, Outside, DexImage.methodIdSize, DexImage.classDefSize]
    omega
  · refine List.pairwise_lt_range.imp_of_mem fun {i j} hi hj hij p hp q hq => ?_
    have hi' : i < n := List.mem_range.1 hi
    have hj' : j < n := List.mem_range.1 hj
    have hp' := bounds_of_mem_classItems n hp
    have hq' := bounds_of_mem_classItems n hq
    unfold Apart Outside
    omega

/-- All tables lie in front of the strings, and leave the table of strings free. -/
theorem bounds_of_mem_tables : ∀ patch ∈ tables n,
    patch.Outside stringTable (typeTable n) ∧ patch.ending ≤ stringData n := by
  have hstrings := stringTable_eq
  have htypes := typeTable_eq n
  have hproto := protoTable_eq n
  have hmethods := methodTable_eq n
  have hdata := stringData_eq n
  intro patch h
  unfold Outside
  rw [tables, List.mem_append, List.mem_append, List.mem_append] at h
  obtain ((h | h) | h) | h := h
  · have hends := ending_le_of_mem_header n patch h
    omega
  · have hbounds := bounds_of_mem_types n patch h
    omega
  · have hbounds := bounds_of_mem_proto n patch h
    omega
  · have hbounds := bounds_of_mem_items n patch h
    omega

/-- No table is written over another one. -/
theorem pairwise_tables : (tables n).Pairwise Apart := by
  have hstrings := stringTable_eq
  have htypes := typeTable_eq n
  have hproto := protoTable_eq n
  have hmethods := methodTable_eq n
  have hheader : ∀ patch ∈ header n, patch.ending ≤ typeTable n := fun patch h => by
    have hends := ending_le_of_mem_header n patch h
    omega
  have htyped : ∀ patch ∈ header n ++ types n, patch.ending ≤ protoTable n :=
    List.forall_mem_append.2 ⟨fun patch h => Nat.le_trans (hheader patch h) (by omega),
      fun patch h => (bounds_of_mem_types n patch h).2⟩
  have hprototyped : ∀ patch ∈ header n ++ types n ++ proto n, patch.ending ≤ methodTable n :=
    List.forall_mem_append.2 ⟨fun patch h => Nat.le_trans (htyped patch h) (by omega),
      fun patch h => (bounds_of_mem_proto n patch h).2⟩
  have hone := pairwise_apart_append (typeTable n) (pairwise_header n) (pairwise_types n) hheader
    fun patch h => (bounds_of_mem_types n patch h).1
  have htwo := pairwise_apart_append (protoTable n) hone (pairwise_proto n) htyped
    fun patch h => (bounds_of_mem_proto n patch h).1
  exact pairwise_apart_append (methodTable n) htwo (pairwise_items n) hprototyped
    fun patch h => (bounds_of_mem_items n patch h).1

end Tables

/-! ## Strings one by one -/

/-- The place of a string's offset in the table of strings. -/
def slot (index offset : Nat) : Patch :=
  .u32 (stringTable + index * 4) offset

theorem length_stringItem (text : String) : (stringItem text).length = text.utf8ByteSize + 2 := by
  simp [stringItem, Text.length_encode]

/-- The bytes with some strings behind them: only the slots of the strings are written over, and
each slot has the offset of its string. -/
structure Entered (index : Nat) (texts : List String) (data out : ByteArray) : Prop where
  size_eq : out.size = data.size + (texts.flatMap stringItem).length
  kept : ∀ other : Patch,
    other.Outside (stringTable + index * 4) (stringTable + (index + texts.length) * 4) →
      other.StandsIn data → other.StandsIn out
  stands : ∀ i (h : i < texts.length), ∃ offset, offset < out.size ∧
    (slot (index + i) offset).StandsIn out ∧ StandsIn ⟨offset, stringItem texts[i]⟩ out

/-- Strings with slots in front of them are all entered. By induction: the later strings have later
slots, so they keep the slot of the first one and its characters, which lie behind all slots. -/
theorem exists_entered {index : Nat} {texts : List String} {data : ByteArray}
    (hroom : stringTable + (index + texts.length) * 4 ≤ data.size) :
    ∃ out, appendStrings? index texts data = some out ∧ Entered index texts data out := by
  induction texts generalizing index data with
  | nil =>
    exact ⟨data, rfl, by simp, fun _ _ h => h, by simp⟩
  | cons text rest ih =>
    rw [List.length_cons] at hroom
    have hfit : (slot index data.size).ending ≤ data.size := by
      simp only [slot, ending_u32]
      omega
    obtain ⟨next, hnext⟩ := exists_write? hfit
    have hsize : next.size = data.size := size_write? hnext
    have hgrown : (next ++ (stringItem text).toByteArray).size =
        data.size + (stringItem text).length := by
      rw [ByteArray.size_append, hsize, List.size_toByteArray]
    have hroom' : stringTable + (index + 1 + rest.length) * 4 ≤
        (next ++ (stringItem text).toByteArray).size := by omega
    obtain ⟨out, hout, hentered⟩ := ih hroom'
    have hslot : (slot index data.size).StandsIn out :=
      hentered.kept _ (Or.inl (by simp only [slot, ending_u32]; omega))
        ((standsIn_write? hnext).append _)
    have hitem : StandsIn ⟨data.size, stringItem text⟩ out :=
      hentered.kept _ (Or.inr (by dsimp only; omega)) (hsize ▸ standsIn_append_self next _)
    refine ⟨out, ?_, ?_, ?_, ?_⟩
    · rw [appendStrings?, ← slot, hnext, Option.bind_some, hout]
    · rw [hentered.size_eq, hgrown, List.flatMap_cons, List.length_append, Nat.add_assoc]
    · intro other hother hstands
      unfold Outside at hother
      rw [List.length_cons] at hother
      refine hentered.kept other (by unfold Outside; omega) (StandsIn.append ?_ _)
      refine hstands.write? ?_ hnext
      simp only [Apart, Outside, slot, offset_u32, ending_u32]
      omega
    · rintro (_ | i) hi
      · refine ⟨data.size, ?_, hslot, hitem⟩
        rw [hentered.size_eq, hgrown, length_stringItem]
        omega
      · obtain ⟨offset, hoffset, hlater, htext⟩ := hentered.stands i (Nat.lt_of_succ_lt_succ hi)
        exact ⟨offset, hoffset, by rwa [Nat.add_assoc, Nat.add_comm 1] at hlater, htext⟩

/-! ## Assembled files -/

/-- The bytes of a file of some classes: every number of the tables in its place, and every string
behind the offset in its slot. -/
structure Assembled (classes : List String) (data : ByteArray) : Prop where
  size_eq : data.size = stringData classes.length + ((strings classes).flatMap stringItem).length
  table : ∀ patch ∈ tables classes.length, patch.StandsIn data
  string : ∀ i (h : i < (strings classes).length), ∃ offset, offset < data.size ∧
    (slot i offset).StandsIn data ∧ StandsIn ⟨offset, stringItem (strings classes)[i]⟩ data

theorem length_strings (classes : List String) : (strings classes).length = classes.length + 2 := by
  simp [strings]

/-- Every list of classes is assembled: no write leaves the tables. -/
theorem exists_assembled (classes : List String) :
    ∃ data, assemble? classes = some data ∧ Assembled classes data := by
  have hstrings := stringTable_eq
  have htypes := typeTable_eq classes.length
  have hdata := stringData_eq classes.length
  have hlength := length_strings classes
  have hzeros : (⟨Array.replicate (stringData classes.length) 0⟩ : ByteArray).size =
      stringData classes.length := Array.size_replicate
  obtain ⟨filled, hfilled, hwritten⟩ := exists_written
    (fun patch h => hzeros.symm ▸ (bounds_of_mem_tables classes.length patch h).2)
    (pairwise_tables classes.length)
  have hsize : filled.size = stringData classes.length := hwritten.size_eq.trans hzeros
  have hroom : stringTable + (0 + (strings classes).length) * 4 ≤ filled.size := by omega
  obtain ⟨data, hout, hentered⟩ := exists_entered hroom
  refine ⟨data, by simp [assemble?, hfilled, hout], ?_⟩
  exact {
    size_eq := hsize ▸ hentered.size_eq
    table := fun patch h => by
      refine hentered.kept patch ?_ (hwritten.stands patch h)
      have hfree : stringTable + (0 + (strings classes).length) * 4 = typeTable classes.length := by
        omega
      rw [Nat.zero_mul, Nat.add_zero, hfree]
      exact (bounds_of_mem_tables classes.length patch h).1
    string := fun i h => by
      have hstring := hentered.stands i h
      rwa [Nat.zero_add] at hstring }

/-! ## What is read -/

section Reading

variable {classes : List String} {data : ByteArray}

/-- A string that the file can hold: the byte of its length is below 0x80, and its first zero byte
is the one behind it. -/
structure Fits (text : String) : Prop where
  noZero : '\x00' ∉ text.toList
  short : text.utf8ByteSize ≤ 127

theorem length_flatMap_stringItem_le {texts : List String} (h : ∀ text ∈ texts, Fits text) :
    (texts.flatMap stringItem).length ≤ texts.length * 129 := by
  induction texts with
  | nil => exact Nat.le_refl 0
  | cons text rest ih =>
    obtain ⟨htext, hrest⟩ := List.forall_mem_cons.1 h
    have hlength := length_stringItem text
    have hshort := htext.short
    have hlater := ih hrest
    rw [List.flatMap_cons, List.length_append, List.length_cons]
    omega

variable (hassembled : Assembled classes data) (hcount : classes.length ≤ 65536)
  (hfits : ∀ text ∈ classes, Fits text)

include hfits in
theorem fits_of_mem_strings : ∀ text ∈ strings classes, Fits text := by
  refine List.forall_mem_append.2 ⟨hfits, ?_⟩
  simp only [List.mem_cons, List.not_mem_nil, or_false, forall_eq_or_imp, forall_eq]
  exact ⟨⟨by decide, by decide⟩, ⟨by decide, by decide⟩⟩

include hassembled hcount hfits in
theorem size_lt : data.size < 0x100000000 := by
  have hdata := stringData_eq classes.length
  have hstrings := length_flatMap_stringItem_le (fits_of_mem_strings hfits)
  rw [length_strings] at hstrings
  have hsize := hassembled.size_eq
  omega

/-- A number below 0x80 is its own last group. -/
theorem ulebAt_of_byte {offset n : Nat} (h : data[offset]? = some (UInt8.ofNat n)) (hn : n < 0x80) :
    UlebAt data offset n 1 := by
  have hbyte : (UInt8.ofNat n).toNat = n := Text.toNat_ofNat (by omega)
  refine ⟨[], UInt8.ofNat n, by simpa using h, by simp, by omega, by decide, rfl, ?_⟩
  simp only [List.nil_append, septets, hbyte]
  omega

include hassembled in
theorem tableAt_of_header {field count offset : Nat}
    (h : ∀ patch ∈ tableEntry field count offset, patch ∈ header classes.length)
    (hcount : count < 0x100000000) (hoffset : offset < 0x100000000) :
    TableAt data field count offset := by
  have hstands : ∀ patch ∈ tableEntry field count offset, patch.StandsIn data := fun patch hpatch =>
    hassembled.table patch (by simp [tables, h patch hpatch])
  exact ⟨u32At_of_standsIn (hstands _ (by simp [tableEntry])) hcount,
    u32At_of_standsIn (hstands _ (by simp [tableEntry])) hoffset⟩

include hassembled in
theorem headerAt : HeaderAt data := by
  have hdata := stringData_eq classes.length
  have hsize := hassembled.size_eq
  have hmagic : magic.StandsIn data := hassembled.table magic (by simp [tables, header])
  refine ⟨by omega, ?_⟩
  simp only [StandsIn, magic, bytesAt_cons] at hmagic
  simp [hmagic]

include hassembled in
/-- The items of a class stand as they were written. -/
theorem standsIn_of_mem_classItems {i : Nat} (h : i < classes.length) :
    ∀ patch ∈ classItems classes.length i, patch.StandsIn data := fun patch hpatch =>
  hassembled.table patch
    (List.mem_append_right _ (List.mem_flatMap.2 ⟨i, List.mem_range.2 h, hpatch⟩))

include hassembled hcount hfits

theorem stringAt {index : Nat} {text : String} (h : (strings classes)[index]? = some text) :
    StringAt data index text := by
  obtain ⟨hindex, rfl⟩ := List.getElem?_eq_some_iff.1 h
  obtain ⟨offset, hoffset, hslot, hitem⟩ := hassembled.string index hindex
  have hsize := size_lt hassembled hcount hfits
  have htext := fits_of_mem_strings hfits _ (List.getElem_mem hindex)
  have htable : TableAt data DexImage.stringIds (classes.length + 2) stringTable :=
    tableAt_of_header hassembled (by simp [header, tableEntry]) (by omega) (by decide)
  obtain ⟨hlength, hcharacters⟩ := bytesAt_cons.1 hitem
  exact ⟨_, _, offset, _, 1, _, htable, length_strings classes ▸ hindex,
    u32At_of_standsIn hslot (by omega), ulebAt_of_byte hlength (Nat.lt_succ_of_le htext.short),
    ⟨Text.zero_not_mem_encode htext.noZero, hcharacters⟩, (Text.decodeLenient_encode _).symm⟩

/-- Every type has the string of its own index. -/
theorem typeAt {index : Nat} {descriptor : String} (hindex : index < classes.length + 1)
    (h : (strings classes)[index]? = some descriptor) : TypeAt data index descriptor := by
  have htypes := typeTable_eq classes.length
  have htable : TableAt data DexImage.typeIds (classes.length + 1) (typeTable classes.length) :=
    tableAt_of_header hassembled (by simp [header, tableEntry]) (by omega) (by omega)
  have hitem : (u32 (typeTable classes.length + index * 4) index).StandsIn data :=
    hassembled.table _ (by
      simp only [tables, types, List.mem_append, List.mem_map, List.mem_range]
      exact Or.inl (Or.inl (Or.inr ⟨index, hindex, rfl⟩)))
  exact ⟨_, _, index, htable, hindex, u32At_of_standsIn hitem (by omega),
    stringAt hassembled hcount hfits h⟩

/-- The one prototype has no parameters and no result. -/
theorem protoAt : ProtoAt data 0 [] "V" := by
  have hproto := protoTable_eq classes.length
  have htable : TableAt data DexImage.protoIds 1 (protoTable classes.length) :=
    tableAt_of_header hassembled (by simp [header, tableEntry]) (by omega) (by omega)
  have hresult : (u32 (protoTable classes.length + 4) classes.length).StandsIn data :=
    hassembled.table _ (by simp [tables, proto])
  have hparameters : (u32 (protoTable classes.length + 8) 0).StandsIn data :=
    hassembled.table _ (by simp [tables, proto])
  have hvoid : TypeAt data classes.length "V" :=
    typeAt hassembled hcount hfits (by omega) (by simp [strings])
  exact ⟨_, _, classes.length, 0, htable, by decide, u32At_of_standsIn hresult (by omega),
    u32At_of_standsIn hparameters (by decide), rfl, hvoid⟩

theorem typeAt_class {i : Nat} (h : i < classes.length) : TypeAt data i classes[i] :=
  typeAt hassembled hcount hfits (by omega) (by simp [strings, List.getElem?_append_left h])

theorem methodAt {i : Nat} (h : i < classes.length) :
    MethodAt data (methodTable classes.length + i * 8) ⟨classes[i], "run", [], "V"⟩ := by
  have hstands := standsIn_of_mem_classItems hassembled h
  have howner : (u16 (methodTable classes.length + i * 8) i).StandsIn data :=
    hstands _ (by simp [classItems, DexImage.methodIdSize])
  have hproto : (u16 (methodTable classes.length + i * 8 + 2) 0).StandsIn data :=
    hstands _ (by simp [classItems, DexImage.methodIdSize])
  have hname : (u32 (methodTable classes.length + i * 8 + 4) (classes.length + 1)).StandsIn data :=
    hstands _ (by simp [classItems, DexImage.methodIdSize])
  exact ⟨i, 0, classes.length + 1, u16At_of_standsIn howner (by omega),
    u16At_of_standsIn hproto (by decide), u32At_of_standsIn hname (by omega),
    typeAt_class hassembled hcount hfits h,
    stringAt hassembled hcount hfits (by simp [strings]), protoAt hassembled hcount hfits⟩

theorem classesAt : ClassesAt data classes := by
  have hclasses := classTable_eq classes.length
  have hdata := stringData_eq classes.length
  have hsize := hassembled.size_eq
  have htable : TableAt data DexImage.classDefs classes.length (classTable classes.length) :=
    tableAt_of_header hassembled (by simp [header, tableEntry]) (by omega) (by omega)
  refine ⟨_, ⟨htable, by omega⟩, fun i h => ⟨i, ?_, typeAt_class hassembled hcount hfits h⟩⟩
  refine u32At_of_standsIn ?_ (by omega)
  exact standsIn_of_mem_classItems hassembled h _
    (by simp [classItems, DexImage.classDefSize])

theorem methodsAt : MethodsAt data (classes.map fun c => ⟨c, "run", [], "V"⟩) := by
  have hmethods := methodTable_eq classes.length
  have hdata := stringData_eq classes.length
  have hsize := hassembled.size_eq
  have htable : TableAt data DexImage.methodIds classes.length (methodTable classes.length) :=
    tableAt_of_header hassembled (by simp [header, tableEntry]) (by omega) (by omega)
  refine ⟨_, ⟨by rwa [List.length_map], by rw [List.length_map]; omega⟩, fun i h => ?_⟩
  have hin : i < classes.length := by rwa [List.length_map] at h
  rw [List.getElem_map]
  exact methodAt hassembled hcount hfits hin

end Reading

/-! ## The law -/

/-- The file of up to 65536 classes is always assembled, and lists exactly the classes that it was
made from, in their order, and the method `run` of each. The descriptors may be any texts of at most
127 bytes without a zero, empty ones and repeated ones among them. -/
theorem reading_undoes_assembling {classes : List String} (path : Path)
    (hcount : classes.length ≤ 65536)
    (htexts : ∀ text ∈ classes, '\x00' ∉ text.toList ∧ text.utf8ByteSize ≤ 127) :
    ∃ data, assemble? classes = some data ∧
      ClassIndex.ofBytes data path = .ok ⟨classes, classes.map (· ++ "->run()V")⟩ := by
  obtain ⟨data, hdata, hassembled⟩ := exists_assembled classes
  have hfits : ∀ text ∈ classes, Fits text := fun text h => ⟨(htexts text h).1, (htexts text h).2⟩
  refine ⟨data, hdata, ?_⟩
  rw [ClassIndex.ofBytes_eq_ok_iff, ClassIndex.read_eq_ok_iff]
  refine ⟨headerAt hassembled, classesAt hassembled hcount hfits, _,
    methodsAt hassembled hcount hfits, ?_⟩
  rw [List.map_map]
  refine List.map_congr_left fun c _ => ?_
  simp only [Function.comp, MethodReference.text, String.append_assoc]
  rfl

/-- An empty descriptor, a hyphenated one, an accented one and the same one again. -/
theorem four_classes_are_read_as_they_were_assembled :
    ∃ data, assemble? ["", "LFoo$-CC;", "Lé;", "Lé;"] = some data ∧
      ClassIndex.ofBytes data ⟨"classes.dex"⟩ =
        .ok ⟨["", "LFoo$-CC;", "Lé;", "Lé;"],
          ["->run()V", "LFoo$-CC;->run()V", "Lé;->run()V", "Lé;->run()V"]⟩ :=
  reading_undoes_assembling ⟨"classes.dex"⟩ (by decide) (by decide)

end DexAssembly

end AppBoundary
