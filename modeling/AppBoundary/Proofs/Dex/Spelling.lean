-- Spellings of method references. A descriptor ends where its own letters say,
-- so the descriptors of a spelling need no signs between them, and different
-- references are never spelled alike, overloads of one method included.
import AppBoundary.Proofs.Dex.Owners

namespace AppBoundary

open DexLayout (MethodsAt)

/-! ## Descriptors of types -/

/-- A text that describes a type: brackets for the dimensions of an array, and then the letter of a
primitive type or a class, which ends at the first semicolon. -/
inductive DescribesType : List Char → Prop
  | primitive {letter : Char} : letter ∈ ['Z', 'B', 'C', 'S', 'I', 'J', 'F', 'D', 'V'] →
      DescribesType [letter]
  | classType {internal : List Char} : ';' ∉ internal → DescribesType ('L' :: internal ++ [';'])
  | array {element : List Char} : DescribesType element → DescribesType ('[' :: element)

namespace DescribesType

variable {descriptor other rest behind : List Char}

/-- A descriptor begins, and not with the sign behind the parameters. -/
theorem exists_cons (h : DescribesType descriptor) :
    ∃ first others, descriptor = first :: others ∧ first ≠ ')' := by
  cases h with
  | primitive hletter =>
    refine ⟨_, [], rfl, ?_⟩
    rintro rfl
    exact absurd hletter (by decide)
  | classType _ => exact ⟨'L', _, rfl, by decide⟩
  | array _ => exact ⟨'[', _, rfl, by decide⟩

/-- No descriptor is the start of another, so a text has at most one descriptor at its start. -/
theorem append_inj (h : DescribesType descriptor) (hother : DescribesType other)
    (heq : descriptor ++ rest = other ++ behind) : descriptor = other ∧ rest = behind := by
  induction h generalizing other with
  | primitive hletter =>
    cases hother with
    | primitive _ =>
      obtain ⟨rfl, hrest⟩ := List.cons.inj heq
      exact ⟨rfl, hrest⟩
    | classType _ =>
      obtain ⟨rfl, -⟩ := List.cons.inj heq
      exact absurd hletter (by decide)
    | array _ =>
      obtain ⟨rfl, -⟩ := List.cons.inj heq
      exact absurd hletter (by decide)
  | @classType internal hinternal =>
    cases hother with
    | primitive hletter =>
      obtain ⟨rfl, -⟩ := List.cons.inj heq
      exact absurd hletter (by decide)
    | @classType internal' hinternal' =>
      simp only [List.cons_append, List.append_assoc, List.nil_append, List.cons.injEq,
        true_and] at heq
      obtain ⟨rfl, hrest⟩ := Text.append_delimiter_inj hinternal hinternal' heq
      exact ⟨rfl, hrest⟩
    | array _ =>
      have hfirst : 'L' = '[' := (List.cons.inj heq).1
      exact absurd hfirst (by decide)
  | array _ ih =>
    cases hother with
    | primitive hletter =>
      obtain ⟨rfl, -⟩ := List.cons.inj heq
      exact absurd hletter (by decide)
    | classType _ =>
      have hfirst : '[' = 'L' := (List.cons.inj heq).1
      exact absurd hfirst (by decide)
    | array hother =>
      obtain ⟨rfl, hrest⟩ := ih hother (List.cons.inj heq).2
      exact ⟨rfl, hrest⟩

/-- Descriptors in a row, up to the sign behind them, are told apart without signs between them. -/
theorem flatten_inj {descriptors others : List (List Char)}
    (hdescriptors : ∀ d ∈ descriptors, DescribesType d) (hothers : ∀ d ∈ others, DescribesType d)
    (heq : descriptors.flatten ++ ')' :: rest = others.flatten ++ ')' :: behind) :
    descriptors = others ∧ rest = behind := by
  induction descriptors generalizing others with
  | nil =>
    cases others with
    | nil => exact ⟨rfl, (List.cons.inj heq).2⟩
    | cons other others =>
      obtain ⟨first, more, rfl, hfirst⟩ := (hothers other (by simp)).exists_cons
      exact absurd (List.cons.inj heq).1.symm hfirst
  | cons descriptor descriptors ih =>
    obtain ⟨hdescriptor, hmore⟩ := List.forall_mem_cons.1 hdescriptors
    cases others with
    | nil =>
      obtain ⟨first, more, rfl, hfirst⟩ := hdescriptor.exists_cons
      exact absurd (List.cons.inj heq).1 hfirst
    | cons other others =>
      obtain ⟨hother, hbehind⟩ := List.forall_mem_cons.1 hothers
      rw [List.flatten_cons, List.flatten_cons, List.append_assoc, List.append_assoc] at heq
      obtain ⟨rfl, htail⟩ := hdescriptor.append_inj hother heq
      obtain ⟨rfl, hrest⟩ := ih hmore hbehind htail
      exact ⟨rfl, hrest⟩

end DescribesType

/-! ## Method references -/

namespace MethodReference

/-- The descriptors of a method reference describe types, and its name has no parenthesis that
opens. -/
structure WellFormed (method : MethodReference) : Prop where
  owner : DescribesType method.owner.toList
  name : '(' ∉ method.name.toList
  parameters : ∀ parameter ∈ method.parameters, DescribesType parameter.toList
  result : DescribesType method.result.toList

theorem toList_text (method : MethodReference) :
    method.text.toList = method.owner.toList ++ '-' :: '>' :: (method.name.toList ++ '(' ::
      ((method.parameters.map String.toList).flatten ++ ')' :: method.result.toList)) := by
  simp [text, List.flatMap_def]

/-- Method references that differ somewhere are spelled differently. -/
theorem text_eq_iff {first second : MethodReference} (hfirst : first.WellFormed)
    (hsecond : second.WellFormed) :
    first.text = second.text ↔
      first.owner = second.owner ∧ first.name = second.name ∧
        first.parameters = second.parameters ∧ first.result = second.result := by
  constructor
  · intro h
    have hlists := congrArg String.toList h
    rw [toList_text, toList_text] at hlists
    obtain ⟨howner, hbehind⟩ := hfirst.owner.append_inj hsecond.owner hlists
    simp only [List.cons.injEq, true_and] at hbehind
    obtain ⟨hname, hsignature⟩ := Text.append_delimiter_inj hfirst.name hsecond.name hbehind
    obtain ⟨hparameters, hresult⟩ := DescribesType.flatten_inj
      (List.forall_mem_map.2 hfirst.parameters) (List.forall_mem_map.2 hsecond.parameters) hsignature
    have htoList : Function.Injective String.toList := fun _ _ => String.toList_inj.1
    exact ⟨htoList howner, htoList hname, List.map_injective_iff.2 htoList hparameters,
      htoList hresult⟩
  · rintro ⟨howner, hname, hparameters, hresult⟩
    rw [text, text, howner, hname, hparameters, hresult]

end MethodReference

/-! ## The law -/

/-- Two method references, of one accepted file or of two, are spelled alike exactly when they have
the same class, name, parameters and result, as long as all of their descriptors describe types and
their names have no parenthesis that opens. -/
theorem spellings_tell_method_references_apart {data1 data2 : ByteArray} {path1 path2 : Path}
    {index1 index2 : ClassIndex} (h1 : ClassIndex.ofBytes data1 path1 = .ok index1)
    (h2 : ClassIndex.ofBytes data2 path2 = .ok index2) :
    ∃ methods1 methods2 : List MethodReference,
      (∀ others, MethodsAt data1 others ↔ others = methods1) ∧
      (∀ others, MethodsAt data2 others ↔ others = methods2) ∧
      index1.methods.length = methods1.length ∧ index2.methods.length = methods2.length ∧
      ∀ (i j : Nat) (m1 m2 : MethodReference), methods1[i]? = some m1 →
        methods2[j]? = some m2 → m1.WellFormed → m2.WellFormed →
        (index1.methods[i]? = index2.methods[j]? ↔
          m1.owner = m2.owner ∧ m1.name = m2.name ∧ m1.parameters = m2.parameters ∧
            m1.result = m2.result) := by
  obtain ⟨methods1, hunique1, htexts1⟩ := ClassIndex.exists_methods_of_ofBytes h1
  obtain ⟨methods2, hunique2, htexts2⟩ := ClassIndex.exists_methods_of_ofBytes h2
  refine ⟨methods1, methods2, hunique1, hunique2, by rw [htexts1, List.length_map],
    by rw [htexts2, List.length_map], fun i j m1 m2 hm1 hm2 hwell1 hwell2 => ?_⟩
  rw [htexts1, htexts2, List.getElem?_map, List.getElem?_map, hm1, hm2, Option.map_some,
    Option.map_some, Option.some.injEq, MethodReference.text_eq_iff hwell1 hwell2]

/-- A file with two methods `f` of the class `LA;`. Their parameters are a number and an array of
numbers, in this order and in the other. -/
def overloadedFile : ByteArray :=
  ⟨([0x64, 0x65, 0x78, 0x0A, 0x30, 0x33, 0x35, 0x00] ++ List.replicate 48 0
    -- Counts and places of the tables: strings, types, prototypes, fields, methods, classes.
    ++ [5, 0x70, 4, 0x84, 2, 0x94, 0, 0, 2, 0xAC, 0, 0, 0, 0].flatMap smallWord
    -- The places of the strings, the strings of the types, the prototypes.
    ++ [0xCC, 0xD1, 0xD4, 0xD7, 0xDB, 0, 1, 2, 3, 1, 1, 0xBC, 1, 1, 0xC4].flatMap smallWord
    -- The methods and the lists of their parameters.
    ++ [0, 0, 0, 0] ++ smallWord 4 ++ [0, 0, 1, 0] ++ smallWord 4
    ++ smallWord 2 ++ [2, 0, 3, 0] ++ smallWord 2 ++ [3, 0, 2, 0]
    ++ [3, 0x4C, 0x41, 0x3B, 0] ++ [1, 0x56, 0] ++ [1, 0x49, 0] ++ [2, 0x5B, 0x49, 0]
    ++ [1, 0x66, 0]).toArray⟩

theorem methodsAt_overloadedFile : MethodsAt overloadedFile
    [⟨"LA;", "f", ["I", "[I"], "V"⟩, ⟨"LA;", "f", ["[I", "I"], "V"⟩] := by
  have hread : DexImage.methods ⟨overloadedFile⟩ =
      .ok [⟨"LA;", "f", ["I", "[I"], "V"⟩, ⟨"LA;", "f", ["[I", "I"], "V"⟩] :=
    eq_ok_of_toOption (by decide +kernel)
  exact DexImage.methods_eq_ok_iff.1 hread

theorem ofBytes_overloadedFile : ClassIndex.ofBytes overloadedFile ⟨"classes.dex"⟩ =
    .ok ⟨[], ["LA;->f(I[I)V", "LA;->f([II)V"]⟩ := by
  have hheader : DexImage.hasHeader ⟨overloadedFile⟩ = true := by decide +kernel
  have hclasses : DexImage.classes ⟨overloadedFile⟩ = .ok [] :=
    eq_ok_of_toOption (by decide +kernel)
  rw [ClassIndex.ofBytes_eq_ok_iff, ClassIndex.read_eq_ok_iff]
  exact ⟨DexImage.hasHeader_iff.1 hheader, DexImage.classes_eq_ok_iff.1 hclasses, _, methodsAt_overloadedFile, by decide⟩

/-- Two overloads whose parameters are the same in another order are spelled differently. -/
theorem overloads_of_swapped_parameters_are_told_apart :
    ∃ index, ClassIndex.ofBytes overloadedFile ⟨"classes.dex"⟩ = .ok index ∧
      MethodsAt overloadedFile
        [⟨"LA;", "f", ["I", "[I"], "V"⟩, ⟨"LA;", "f", ["[I", "I"], "V"⟩] ∧
      (⟨"LA;", "f", ["I", "[I"], "V"⟩ : MethodReference).WellFormed ∧
      (⟨"LA;", "f", ["[I", "I"], "V"⟩ : MethodReference).WellFormed ∧
      index.methods[0]? ≠ index.methods[1]? := by
  have howner : DescribesType ('L' :: ['A'] ++ [';']) := .classType (by decide)
  have hnumber : DescribesType "I".toList := .primitive (by decide)
  have hnumbers : DescribesType "[I".toList := .array (.primitive (by decide))
  have hnothing : DescribesType "V".toList := .primitive (by decide)
  have hwell1 : (⟨"LA;", "f", ["I", "[I"], "V"⟩ : MethodReference).WellFormed :=
    ⟨howner, by decide, by simpa using ⟨hnumber, hnumbers⟩, hnothing⟩
  have hwell2 : (⟨"LA;", "f", ["[I", "I"], "V"⟩ : MethodReference).WellFormed :=
    ⟨howner, by decide, by simpa using ⟨hnumbers, hnumber⟩, hnothing⟩
  obtain ⟨methods, _, hunique, hunique', -, -, hlaw⟩ :=
    spellings_tell_method_references_apart ofBytes_overloadedFile ofBytes_overloadedFile
  obtain rfl := (hunique _).1 methodsAt_overloadedFile
  obtain rfl := (hunique' _).1 methodsAt_overloadedFile
  refine ⟨_, ofBytes_overloadedFile, methodsAt_overloadedFile, hwell1, hwell2, ?_⟩
  rw [ne_eq, hlaw 0 1 _ _ rfl rfl hwell1 hwell2]
  decide

end AppBoundary
