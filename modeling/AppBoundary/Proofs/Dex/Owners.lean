-- Methods counted under the classes that declare them. The spelling of a method
-- puts a hyphen and an angle bracket behind the class, and the census cuts at
-- the first hyphen, so a class with a hyphen in its name loses its methods.
import AppBoundary.Proofs.Census
import AppBoundary.Proofs.Descriptor
import AppBoundary.Proofs.Dex.Reading
import AppBoundary.Proofs.Filter.Reading

namespace AppBoundary

open DexLayout (MethodsAt)

/-! ## The owner in a spelling -/

/-- The name and the signature of a method play no part in its owner. -/
theorem ownerOfMethod_text (m : MethodReference) : ownerOfMethod m.text = ownerOfMethod m.owner := by
  have htext : m.text =
      m.owner ++ "-" ++ (">" ++ m.name ++ "(" ++ String.join m.parameters ++ ")" ++ m.result) :=
    String.toList_inj.1 (by simp [MethodReference.text])
  rw [htext, ownerOfMethod_append_hyphen]

theorem ownerOfMethod_text_iff (m : MethodReference) :
    ownerOfMethod m.text = m.owner ↔ '-' ∉ m.owner.toList := by
  rw [ownerOfMethod_text, ownerOfMethod_eq_self_iff]

namespace Filter

/-! ## The census of methods -/

theorem countMethods_eq_total_of_owners (filter : Filter) {index : ClassIndex}
    {methods : List MethodReference} (h : index.methods = methods.map MethodReference.text) :
    filter.countMethods index =
      total (fun m => filter.countClass (ownerOfMethod m.owner)) methods := by
  rw [countMethods_eq_total, h, total, List.map_map]
  simp only [Function.comp_def, countMethod, ownerOfMethod_text, total]

/-! ## The filter of a hyphen -/

theorem ofEntries_hyphen : ofEntries ["-"] = .ok ⟨"(?:-)", .char '-'⟩ := rfl

/-- The filter of a hyphen counts something in the names that have one. -/
theorem countClass_hyphen_pos_iff {descriptor : String} :
    0 < countClass ⟨"(?:-)", .char '-'⟩ descriptor ↔ '-' ∈ descriptor.toList := by
  have hplain : ∀ entry ∈ ["-"], Plain entry.toList := by
    simp [Plain, metacharacters]
  have hspells : ∀ part, Spells "-".toList part ↔ part = ['-'] := by
    intro part
    rw [show "-".toList = ['-'] from rfl, spells_character_iff (by decide)]
    simp [spells_nil_iff]
  rw [countClass, countMatches, Regex.countMatches_pos_iff, ← mem_typeName_iff]
  refine (isMatch_iff_spells hplain ofEntries_hyphen).trans ?_
  simp only [List.mem_singleton, exists_eq_left, hspells]
  constructor
  · rintro ⟨before, _, after, htext, rfl⟩
    simp [htext]
  · intro hmem
    obtain ⟨before, after, htext⟩ := List.append_of_mem hmem
    exact ⟨before, ['-'], after, by simp [htext], rfl⟩

/-- Where every filter counts methods as it counts their classes, no class has a hyphen: the filter
of a hyphen counts no method. -/
theorem not_mem_of_counts_agree {index : ClassIndex} {methods : List MethodReference}
    (h : index.methods = methods.map MethodReference.text)
    (hagree : ∀ entries filter, ofEntries entries = .ok filter →
      filter.countMethods index = total (fun m => filter.countClass m.owner) methods) :
    ∀ m ∈ methods, '-' ∉ m.owner.toList := by
  have hnone : ∀ m ∈ methods,
      countClass ⟨"(?:-)", .char '-'⟩ (ownerOfMethod m.owner) = 0 := by
    intro m _
    rw [← Nat.le_zero_eq, ← Nat.not_lt, countClass_hyphen_pos_iff]
    exact not_mem_ownerOfMethod m.owner
  have htotal := hagree _ _ ofEntries_hyphen
  rw [countMethods_eq_total_of_owners _ h, total_eq_zero_iff.2 hnone, eq_comm,
    total_eq_zero_iff] at htotal
  intro m hm
  rw [← countClass_hyphen_pos_iff, Nat.not_lt, Nat.le_zero_eq]
  exact htotal m hm

end Filter

/-! ## The law -/

/-- The spelling of a method gives its class back exactly when the class has no hyphen, whatever the
name and the signature. The census of an accepted file counts each method under the class cut at its
first hyphen, and agrees with the census of the classes, for every filter, exactly when no class of a
method has one. -/
theorem methods_count_under_classes_without_hyphens {data : ByteArray} {path : Path}
    {index : ClassIndex} (h : ClassIndex.ofBytes data path = .ok index) :
    ∃ methods, (∀ others, MethodsAt data others ↔ others = methods) ∧
      index.methods = methods.map MethodReference.text ∧
      (∀ m ∈ methods, ownerOfMethod m.text = m.owner ↔ '-' ∉ m.owner.toList) ∧
      (∀ filter : Filter, filter.countMethods index =
        total (fun m => filter.countClass (ownerOfMethod m.owner)) methods) ∧
      ((∀ entries filter, Filter.ofEntries entries = .ok filter →
          filter.countMethods index = total (fun m => filter.countClass m.owner) methods) ↔
        ∀ m ∈ methods, '-' ∉ m.owner.toList) := by
  obtain ⟨methods, hunique, htexts⟩ := ClassIndex.exists_methods_of_ofBytes h
  refine ⟨methods, hunique, htexts, fun m _ => ownerOfMethod_text_iff m,
    fun filter => filter.countMethods_eq_total_of_owners htexts, ?_, ?_⟩
  · exact Filter.not_mem_of_counts_agree htexts
  · intro hhyphens entries filter _
    rw [filter.countMethods_eq_total_of_owners htexts]
    refine total_congr fun m hm => ?_
    rw [ownerOfMethod_eq_self_iff.2 (hhyphens m hm)]

/-! ## A class with a hyphen -/

/-- A small number in four bytes. -/
def smallWord (n : UInt8) : List UInt8 :=
  [n, 0, 0, 0]

/-- A file with one class, `LFoo$-CC;`, and one method, `run`, which belongs to it. -/
def hyphenatedFile : ByteArray :=
  ⟨([0x64, 0x65, 0x78, 0x0A, 0x30, 0x33, 0x35, 0x00] ++ List.replicate 48 0
    -- Counts and places of the tables: strings, types, prototypes, fields, methods, classes.
    ++ [3, 0x70, 2, 0x7C, 1, 0x84, 0, 0, 1, 0x90, 1, 0x98, 0, 0].flatMap smallWord
    -- The places of the strings, the strings of the types, the prototype.
    ++ [0xB8, 0xC3, 0xC6, 0, 1, 1, 1, 0].flatMap smallWord
    -- The method and the class.
    ++ [0, 2].flatMap smallWord ++ [0, 0, 0, 0, 0, 0, 0, 0].flatMap smallWord
    ++ [9, 0x4C, 0x46, 0x6F, 0x6F, 0x24, 0x2D, 0x43, 0x43, 0x3B, 0]
    ++ [1, 0x56, 0] ++ [3, 0x72, 0x75, 0x6E, 0]).toArray⟩

theorem ofBytes_hyphenatedFile : ClassIndex.ofBytes hyphenatedFile ⟨"classes.dex"⟩ =
    .ok ⟨["LFoo$-CC;"], ["LFoo$-CC;->run()V"]⟩ :=
  eq_ok_of_toOption (by decide +kernel)

theorem methodsAt_hyphenatedFile :
    MethodsAt hyphenatedFile [⟨"LFoo$-CC;", "run", [], "V"⟩] := by
  have hread : DexImage.methods ⟨hyphenatedFile⟩ = .ok [⟨"LFoo$-CC;", "run", [], "V"⟩] :=
    eq_ok_of_toOption (by decide +kernel)
  exact DexImage.methods_eq_ok_iff.1 hread

/-- Some filter counts the method of the class with a hyphen otherwise than the class. -/
theorem some_filter_counts_the_hyphenated_class_apart :
    ∃ index entries filter, ClassIndex.ofBytes hyphenatedFile ⟨"classes.dex"⟩ = .ok index ∧
      Filter.ofEntries entries = .ok filter ∧
      filter.countMethods index ≠ filter.countClass "LFoo$-CC;" := by
  obtain ⟨methods, hunique, -, -, -, hagree⟩ :=
    methods_count_under_classes_without_hyphens ofBytes_hyphenatedFile
  obtain rfl := (hunique _).1 methodsAt_hyphenatedFile
  have hhyphen : ¬ ∀ m ∈ [(⟨"LFoo$-CC;", "run", [], "V"⟩ : MethodReference)],
      '-' ∉ m.owner.toList := by
    simp
  rw [← hagree] at hhyphen
  simp only [not_forall, total_cons, total_nil, Nat.add_zero] at hhyphen
  obtain ⟨entries, filter, hfilter, hne⟩ := hhyphen
  exact ⟨_, entries, filter, ofBytes_hyphenatedFile, hfilter, hne⟩

/-- The filter of `CC` counts the class `LFoo$-CC;`, whose descriptor has no angle bracket and so not
the sign between a class and a method, and does not count its method. -/
theorem the_method_of_the_hyphenated_class_is_not_counted :
    ∃ index filter, ClassIndex.ofBytes hyphenatedFile ⟨"classes.dex"⟩ = .ok index ∧
      MethodsAt hyphenatedFile [⟨"LFoo$-CC;", "run", [], "V"⟩] ∧
      '>' ∉ "LFoo$-CC;".toList ∧
      Filter.ofEntries ["CC"] = .ok filter ∧
      filter.countClass "LFoo$-CC;" = 1 ∧ filter.countMethods index = 0 := by
  refine ⟨_, ⟨"(?:CC)", .cat (.char 'C') (.char 'C')⟩, ofBytes_hyphenatedFile,
    methodsAt_hyphenatedFile, by decide, rfl, ?_, ?_⟩
  · decide +kernel
  · decide +kernel

end AppBoundary
