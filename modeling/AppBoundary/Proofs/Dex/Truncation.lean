-- Files of compiled code that are cut short. The layout counts every offset from
-- the start of the file and asks for nothing about its end but room, so what
-- stands in the front of a file stands there with any bytes behind it.
import AppBoundary.Proofs.Dex.Owners
import AppBoundary.Proofs.Dex.Reading

namespace AppBoundary

namespace DexLayout

variable {front : ByteArray} (rest : ByteArray) {offset n : Nat}

/-! ## Bytes and numbers -/

theorem BytesAt.append {bytes : List UInt8} (h : BytesAt front offset bytes) :
    BytesAt (front ++ rest) offset bytes := by
  intro i hi
  have hbyte := h i hi
  have hin : offset + i < front.size := Bytes.getElem?_lt hbyte
  have hmore : offset + i < (front ++ rest).size := by
    rw [ByteArray.size_append]
    omega
  rw [getElem?_pos (front ++ rest) _ hmore, ByteArray.getElem_append_left hin,
    ← getElem?_pos front _ hin]
  exact hbyte

theorem U16At.append (h : U16At front offset n) : U16At (front ++ rest) offset n := by
  obtain ⟨a, b, hbytes, hn⟩ := h
  exact ⟨a, b, hbytes.append rest, hn⟩

theorem U32At.append (h : U32At front offset n) : U32At (front ++ rest) offset n := by
  obtain ⟨a, b, c, d, hbytes, hn⟩ := h
  exact ⟨a, b, c, d, hbytes.append rest, hn⟩

theorem UlebAt.append {value length : Nat} (h : UlebAt front offset value length) :
    UlebAt (front ++ rest) offset value length := by
  obtain ⟨high, last, hbytes, hgroups⟩ := h
  exact ⟨high, last, hbytes.append rest, hgroups⟩

/-! ## Tables -/

theorem TableAt.append {field count : Nat} (h : TableAt front field count offset) :
    TableAt (front ++ rest) field count offset :=
  ⟨h.1.append rest, h.2.append rest⟩

/-- A table that lies in the front of a file lies in the file. -/
theorem WholeTableAt.append {field itemSize count : Nat}
    (h : WholeTableAt front field itemSize count offset) :
    WholeTableAt (front ++ rest) field itemSize count offset := by
  obtain ⟨htable, hfits⟩ := h
  refine ⟨htable.append rest, ?_⟩
  rw [ByteArray.size_append]
  omega

/-! ## Strings and types -/

/-- The zero byte that ends a string stands in the front, so the string goes no further. -/
theorem CharactersAt.append {characters : List UInt8} (h : CharactersAt front offset characters) :
    CharactersAt (front ++ rest) offset characters :=
  ⟨h.1, h.2.append rest⟩

theorem StringAt.append {index : Nat} {text : String} (h : StringAt front index text) :
    StringAt (front ++ rest) index text := by
  obtain ⟨count, table, offset, value, length, characters, htable, hindex, hoffset, hlength,
    hcharacters, htext⟩ := h
  exact ⟨count, table, offset, value, length, characters, htable.append rest, hindex,
    hoffset.append rest, hlength.append rest, hcharacters.append rest, htext⟩

theorem TypeAt.append {index : Nat} {descriptor : String} (h : TypeAt front index descriptor) :
    TypeAt (front ++ rest) index descriptor := by
  obtain ⟨count, table, string, htable, hindex, hstring, hdescriptor⟩ := h
  exact ⟨count, table, string, htable.append rest, hindex, hstring.append rest,
    hdescriptor.append rest⟩

/-! ## Methods -/

theorem TypesAt.append {descriptors : List String} (h : TypesAt front offset descriptors) :
    TypesAt (front ++ rest) offset descriptors := by
  intro i hi
  obtain ⟨type, htype, hdescriptor⟩ := h i hi
  exact ⟨type, htype.append rest, hdescriptor.append rest⟩

theorem ParametersAt.append {parameters : List String} (h : ParametersAt front offset parameters) :
    ParametersAt (front ++ rest) offset parameters := by
  unfold ParametersAt at h ⊢
  split
  · rename_i hzero
    rwa [if_pos hzero] at h
  · rename_i hsome
    rw [if_neg hsome] at h
    exact ⟨h.1.append rest, h.2.append rest⟩

theorem ProtoAt.append {index : Nat} {parameters : List String} {result : String}
    (h : ProtoAt front index parameters result) :
    ProtoAt (front ++ rest) index parameters result := by
  obtain ⟨count, table, type, list, htable, hindex, htype, hlist, hparameters, hresult⟩ := h
  exact ⟨count, table, type, list, htable.append rest, hindex, htype.append rest,
    hlist.append rest, hparameters.append rest, hresult.append rest⟩

theorem MethodAt.append {method : MethodReference} (h : MethodAt front offset method) :
    MethodAt (front ++ rest) offset method := by
  obtain ⟨owner, proto, name, howner, hproto, hname, howner', hname', hproto'⟩ := h
  exact ⟨owner, proto, name, howner.append rest, hproto.append rest, hname.append rest,
    howner'.append rest, hname'.append rest, hproto'.append rest⟩

/-! ## The whole file -/

theorem HeaderAt.append (h : HeaderAt front) : HeaderAt (front ++ rest) := by
  obtain ⟨hsize, hmagic⟩ := h
  refine ⟨?_, hmagic.append rest⟩
  rw [ByteArray.size_append]
  omega

theorem ClassesAt.append {classes : List String} (h : ClassesAt front classes) :
    ClassesAt (front ++ rest) classes := by
  obtain ⟨offset, htable, hitems⟩ := h
  refine ⟨offset, htable.append rest, fun i hi => ?_⟩
  obtain ⟨type, htype, hdescriptor⟩ := hitems i hi
  exact ⟨type, htype.append rest, hdescriptor.append rest⟩

theorem MethodsAt.append {methods : List MethodReference} (h : MethodsAt front methods) :
    MethodsAt (front ++ rest) methods := by
  obtain ⟨offset, htable, hitems⟩ := h
  exact ⟨offset, htable.append rest, fun i hi => (hitems i hi).append rest⟩

end DexLayout

/-! ## What a longer file lists -/

/-- A file with bytes behind it lists what it lists without them. -/
theorem ClassIndex.ofBytes_append {front : ByteArray} {path : Path} {index : ClassIndex}
    (h : ClassIndex.ofBytes front path = .ok index) (rest : ByteArray) :
    ClassIndex.ofBytes (front ++ rest) path = .ok index := by
  rw [ofBytes_eq_ok_iff, read_eq_ok_iff] at h ⊢
  obtain ⟨hheader, hclasses, methods, hmethods, htexts⟩ := h
  exact ⟨hheader.append rest, hclasses.append rest, methods, hmethods.append rest, htexts⟩

/-! ## The law -/

/-- A file that begins with an accepted one is accepted and lists the same classes and methods in the
same order. So an accepted file that is cut short is malformed or lists the same, never fewer and
never others. -/
theorem a_file_cut_short_lists_the_same_or_nothing (data : ByteArray) (path : Path) :
    (∀ front rest index, data = front ++ rest → ClassIndex.ofBytes front path = .ok index →
      ClassIndex.ofBytes data path = .ok index) ∧
    ∀ front rest index, data = front ++ rest → ClassIndex.ofBytes data path = .ok index →
      (∃ cause, ClassIndex.ofBytes front path = .error (.malformedIndex path cause)) ∨
        ClassIndex.ofBytes front path = .ok index := by
  refine ⟨?_, ?_⟩
  · rintro front rest index rfl h
    exact ClassIndex.ofBytes_append h rest
  · rintro front rest index rfl h
    rcases ClassIndex.ofBytes_eq_ok_or_malformed front path with ⟨shorter, hshorter⟩ | hmalformed
    · have hsame : ClassIndex.ofBytes (front ++ rest) path = .ok shorter :=
        ClassIndex.ofBytes_append hshorter rest
      rw [h, Except.ok.injEq] at hsame
      exact Or.inr (hsame ▸ hshorter)
    · exact Or.inl hmalformed

/-- The file of the hyphenated class lists the same with bytes behind it, and is malformed when it is
cut behind its header, where its tables would begin. -/
theorem the_hyphenated_file_longer_and_shorter :
    ClassIndex.ofBytes (hyphenatedFile ++ ⟨#[0x4C, 0x00]⟩) ⟨"classes.dex"⟩ =
        .ok ⟨["LFoo$-CC;"], ["LFoo$-CC;->run()V"]⟩ ∧
      ∃ cause, ClassIndex.ofBytes (hyphenatedFile.extract 0 0x70) ⟨"classes.dex"⟩ =
        .error (.malformedIndex ⟨"classes.dex"⟩ cause) := by
  have hcut : hyphenatedFile =
      hyphenatedFile.extract 0 0x70 ++ hyphenatedFile.extract 0x70 hyphenatedFile.size := by
    rw [ByteArray.extract_append_extract]
    simp
  have hheader :
      (ClassIndex.ofBytes (hyphenatedFile.extract 0 0x70) ⟨"classes.dex"⟩).toOption = none := by
    decide +kernel
  refine ⟨(a_file_cut_short_lists_the_same_or_nothing _ _).1 _ _ _ rfl ofBytes_hyphenatedFile, ?_⟩
  rcases (a_file_cut_short_lists_the_same_or_nothing _ _).2 _ _ _ hcut ofBytes_hyphenatedFile with
    hmalformed | hsame
  · exact hmalformed
  · rw [hsame] at hheader
    cases hheader

end AppBoundary
