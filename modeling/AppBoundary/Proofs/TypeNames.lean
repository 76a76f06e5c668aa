-- Source names of types. A descriptor is named by the type it describes, whatever
-- the number of brackets in front, and a text that describes no type is its own
-- name. Types that source code can name are told apart by their names, and the
-- package of a class is what its internal name has before the last slash.
import AppBoundary.Proofs.ClassName
import AppBoundary.Proofs.Descriptor
import AppBoundary.Proofs.Text.Segments

namespace AppBoundary

/-! ## Names of types that are no arrays -/

/-- The letters of the primitive types, each with the keyword for its type. -/
def primitives : List (Char × String) :=
  [('Z', "boolean"), ('B', "byte"), ('C', "char"), ('S', "short"), ('I', "int"), ('J', "long"),
   ('F', "float"), ('D', "double"), ('V', "void")]

/-- A text with dots for slashes. -/
def dotted (text : String) : String :=
  String.ofList (text.toList.map fun c => if c = '/' then '.' else c)

/-- What describes a type that is no array, with the name of that type. -/
inductive NamesElement : (element name : String) → Prop
  | primitive {letter : Char} {keyword : String} :
      (letter, keyword) ∈ primitives → NamesElement (String.singleton letter) keyword
  | classType (internal : String) : NamesElement ("L" ++ internal ++ ";") (dotted internal)

theorem primitiveName?_eq_some_iff {element : List Char} {name : String} :
    primitiveName? element = some name ↔
      ∃ letter, element = [letter] ∧ (letter, name) ∈ primitives := by
  constructor
  · intro h
    unfold primitiveName? at h
    split at h <;> simp only [reduceCtorEq, Option.some.injEq] at h <;> subst h <;>
      exact ⟨_, rfl, by decide⟩
  · rintro ⟨letter, rfl, hmem⟩
    simp only [primitives, List.mem_cons, List.not_mem_nil, or_false, Prod.mk.injEq] at hmem
    rcases hmem with h | h | h | h | h | h | h | h | h <;> rw [h.1, h.2] <;> rfl

theorem elementName_eq_some_iff {element : List Char} {name : String} :
    (primitiveName? element).or (className? element) = some name ↔
      NamesElement (String.ofList element) name := by
  constructor
  · intro h
    rcases Option.or_eq_some_iff.1 h with hprimitive | ⟨-, hclass⟩
    · obtain ⟨letter, rfl, hmem⟩ := primitiveName?_eq_some_iff.1 hprimitive
      exact .primitive hmem
    · obtain ⟨internal, rfl, rfl⟩ := className?_eq_some_iff.1 hclass
      have hnames := NamesElement.classType (String.ofList internal)
      simpa [dotted, String.append_assoc] using hnames
  · intro h
    generalize htext : String.ofList element = text at h
    cases h with
    | @primitive letter _ hmem =>
      have helement : element = [letter] := by simpa using congrArg String.toList htext
      rw [primitiveName?_eq_some_iff.2 ⟨letter, helement, hmem⟩]
      rfl
    | classType internal =>
      have helement : element = 'L' :: internal.toList ++ [';'] := by
        simpa using congrArg String.toList htext
      have hprimitive : primitiveName? element = none := by
        rw [Option.eq_none_iff_forall_ne_some]
        intro keyword hkeyword
        obtain ⟨letter, hletter, -⟩ := primitiveName?_eq_some_iff.1 hkeyword
        simp [helement] at hletter
      rw [hprimitive, Option.none_or, className?_eq_some_iff]
      exact ⟨internal.toList, helement, rfl⟩

/-- No element begins with a bracket. -/
theorem NamesElement.head?_ne {element name : String} (h : NamesElement element name) :
    element.toList.head? ≠ some '[' := by
  cases h with
  | primitive hmem =>
    rintro heq
    simp only [String.toList_singleton, List.head?_cons, Option.some.injEq] at heq
    subst heq
    revert hmem
    simp [primitives]
  | classType internal => simp

/-! ## Arrays -/

/-- A text written a number of times. -/
def repeated (n : Nat) (text : String) : String :=
  String.join (List.replicate n text)

theorem repeated_succ (n : Nat) (text : String) :
    repeated (n + 1) text = text ++ repeated n text := by
  apply String.toList_inj.1
  simp [repeated, List.replicate_succ]

theorem toList_repeated_bracket (n : Nat) : (repeated n "[").toList = List.replicate n '[' := by
  induction n with
  | zero => rfl
  | succ n ih =>
    rw [repeated_succ, String.toList_append, ih, List.replicate_succ]
    rfl

theorem length_repeated_brackets (n : Nat) : (repeated n "[]").toList.length = 2 * n := by
  induction n with
  | zero => rfl
  | succ n ih =>
    rw [repeated_succ, String.toList_append, List.length_append, ih, Nat.mul_succ, Nat.add_comm]
    rfl

theorem dropWhile_repeated_bracket {element : String} (n : Nat)
    (h : element.toList.head? ≠ some '[') :
    (repeated n "[" ++ element).toList.dropWhile (· == '[') = element.toList := by
  rw [String.toList_append, toList_repeated_bracket, List.dropWhile_append_of_pos (by simp)]
  cases hlist : element.toList with
  | nil => rfl
  | cons first rest =>
    rw [hlist] at h
    exact List.dropWhile_cons_of_neg (by simpa using h)

/-- The brackets in front of an element are counted. -/
theorem typeName_repeated {element : String} (n : Nat) (h : element.toList.head? ≠ some '[') :
    typeName (repeated n "[" ++ element) =
      match (primitiveName? element.toList).or (className? element.toList) with
      | some name => name ++ repeated n "[]"
      | none => repeated n "[" ++ element := by
  have hcount : (repeated n "[" ++ element).toList.length - element.toList.length = n := by
    rw [String.toList_append, toList_repeated_bracket]
    simp
  simp only [typeName, dropWhile_repeated_bracket n h, hcount]
  rfl

theorem typeName_of_names {element name : String} (n : Nat) (h : NamesElement element name) :
    typeName (repeated n "[" ++ element) = name ++ repeated n "[]" := by
  rw [typeName_repeated n h.head?_ne, elementName_eq_some_iff.2 (by rwa [String.ofList_toList])]

theorem typeName_classType (internal : String) :
    typeName ("L" ++ internal ++ ";") = dotted internal := by
  have hname := typeName_of_names 0 (.classType internal)
  have hempty : ∀ text, repeated 0 text = "" := fun _ => rfl
  rwa [hempty, hempty, String.empty_append, String.append_empty] at hname

/-- Any text is some brackets and a rest that begins with none. -/
theorem exists_repeated_bracket (text : String) :
    ∃ n element, element.toList.head? ≠ some '[' ∧ text = repeated n "[" ++ element := by
  refine ⟨(text.toList.takeWhile (· == '[')).length,
    String.ofList (text.toList.dropWhile (· == '[')), ?_, ?_⟩
  · rw [String.toList_ofList]
    intro hhead
    have hnot := List.head?_dropWhile_not (· == '[') text.toList
    rw [hhead] at hnot
    cases hnot
  · have hbrackets : text.toList.takeWhile (· == '[') =
        List.replicate (text.toList.takeWhile (· == '[')).length '[' :=
      List.eq_replicate_of_mem fun c hc => by simpa using List.mem_takeWhile_imp hc
    apply String.toList_inj.1
    rw [String.toList_append, toList_repeated_bracket, String.toList_ofList, ← hbrackets,
      List.takeWhile_append_dropWhile]

theorem typeName_of_no_element {text : String}
    (h : ∀ n element name, NamesElement element name → text ≠ repeated n "[" ++ element) :
    typeName text = text := by
  obtain ⟨n, element, hhead, rfl⟩ := exists_repeated_bracket text
  have hnone : (primitiveName? element.toList).or (className? element.toList) = none := by
    rw [Option.eq_none_iff_forall_ne_some]
    intro name hname
    have hnames := elementName_eq_some_iff.1 hname
    rw [String.ofList_toList] at hnames
    exact h n element name hnames rfl
  rw [typeName_repeated n hhead, hnone]

/-! ## Types that source code can name -/

/-- The internal name of a class that source code can name: segments between slashes, none of them
empty or with a dot, a semicolon or a bracket in it, and not a keyword. -/
structure InternalName (internal : String) : Prop where
  segments : ∀ segment ∈ Text.splitChars '/' internal.toList,
    segment ≠ [] ∧ ∀ c ∈ segment, c ∉ ['.', ';', '[', ']']
  noKeyword : ∀ letter, (letter, internal) ∉ primitives

/-- The descriptor of a type that source code can name. -/
inductive SourceType : String → Prop
  | primitive {letter : Char} {keyword : String} :
      (letter, keyword) ∈ primitives → SourceType (String.singleton letter)
  | classType {internal : String} : InternalName internal → SourceType ("L" ++ internal ++ ";")
  | array {element : String} : SourceType element → SourceType ("[" ++ element)

variable {internal text : String}

theorem InternalName.not_mem (h : InternalName internal) {c : Char}
    (hc : c ∈ ['.', ';', '[', ']']) : c ∉ internal.toList := by
  intro hmem
  have hslash : c ≠ '/' := by
    rintro rfl
    exact absurd hc (by decide)
  obtain ⟨segment, hsegment, hin⟩ := Text.exists_mem_splitChars hmem hslash
  exact (h.segments segment hsegment).2 c hin hc

/-! ## Dots for slashes -/

/-- Every other sign is kept. -/
theorem mem_dotted_iff {c : Char} (hdot : c ≠ '.') (hslash : c ≠ '/') :
    c ∈ (dotted text).toList ↔ c ∈ text.toList := by
  rw [dotted, String.toList_ofList, List.mem_map]
  constructor
  · rintro ⟨old, hold, rfl⟩
    split at hdot
    · exact absurd rfl hdot
    · rwa [if_neg ‹_›]
  · intro h
    exact ⟨c, h, if_neg hslash⟩

theorem not_mem_dotted (hdot : '.' ∉ text.toList) (hslash : '/' ∉ text.toList) :
    '.' ∉ (dotted text).toList := by
  rw [dotted, String.toList_ofList, List.mem_map]
  rintro ⟨old, hold, hnew⟩
  split at hnew
  · rename_i heq
    exact hslash (heq ▸ hold)
  · exact hdot (hnew ▸ hold)

theorem dotted_append (text other : String) : dotted (text ++ other) = dotted text ++ dotted other := by
  apply String.toList_inj.1
  simp [dotted]

theorem dotted_of_no_slash (h : '/' ∉ text.toList) : dotted text = text := by
  have hsame : text.toList.map (fun c => if c = '/' then '.' else c) = text.toList := by
    refine (List.map_congr_left fun c hc => ?_).trans (List.map_id text.toList)
    have hslash : c ≠ '/' := fun heq => h (heq ▸ hc)
    rw [if_neg hslash, id_eq]
  rw [dotted, hsame, String.ofList_toList]

/-- Texts without dots differ when they have dots for slashes. -/
theorem dotted_inj {other : String} (htext : '.' ∉ text.toList) (hother : '.' ∉ other.toList)
    (h : dotted text = dotted other) : text = other := by
  have hback : ∀ cs : List Char, '.' ∉ cs →
      (cs.map fun c => if c = '/' then '.' else c).map (fun c => if c = '.' then '/' else c) =
        cs := by
    intro cs hcs
    rw [List.map_map]
    refine (List.map_congr_left fun c hc => ?_).trans (List.map_id cs)
    have hdot : c ≠ '.' := fun heq => hcs (heq ▸ hc)
    by_cases hslash : c = '/'
    · simp [hslash]
    · simp [hslash, hdot]
  have hlists := congrArg String.toList h
  rw [dotted, dotted, String.toList_ofList, String.toList_ofList] at hlists
  apply String.toList_inj.1
  rw [← hback _ htext, hlists, hback _ hother]

/-! ## Types told apart by their names -/

/-- A keyword is made of letters. -/
theorem not_mem_of_mem_primitives {letter : Char} {keyword : String}
    (h : (letter, keyword) ∈ primitives) :
    '/' ∉ keyword.toList ∧ '.' ∉ keyword.toList ∧ '[' ∉ keyword.toList := by
  have hall : ∀ entry ∈ primitives,
      '/' ∉ entry.2.toList ∧ '.' ∉ entry.2.toList ∧ '[' ∉ entry.2.toList := by decide
  exact hall _ h

theorem letter_unique {first second : Char} {keyword : String}
    (hfirst : (first, keyword) ∈ primitives) (hsecond : (second, keyword) ∈ primitives) :
    first = second := by
  have hall : ∀ entry ∈ primitives, ∀ other ∈ primitives, entry.2 = other.2 → entry.1 = other.1 := by
    decide
  exact hall _ hfirst _ hsecond rfl

/-- A keyword is the name of no class that source code can name. -/
theorem InternalName.dotted_ne (h : InternalName internal) {letter : Char} {keyword : String}
    (hmem : (letter, keyword) ∈ primitives) : dotted internal ≠ keyword := by
  intro heq
  obtain ⟨hslash, hdot, -⟩ := not_mem_of_mem_primitives hmem
  rw [← dotted_of_no_slash hslash] at heq
  obtain rfl := dotted_inj (h.not_mem (by decide)) hdot heq
  exact h.noKeyword letter hmem

/-- What describes a type that is no array, and that source code can name. -/
def SourceElement (element : String) : Prop :=
  ∀ internal, element = "L" ++ internal ++ ";" → InternalName internal

theorem SourceElement.bracket_not_mem {element name : String} (h : SourceElement element)
    (hname : NamesElement element name) : '[' ∉ name.toList := by
  cases hname with
  | primitive hmem => exact (not_mem_of_mem_primitives hmem).2.2
  | classType internal =>
    rw [mem_dotted_iff (by decide) (by decide)]
    exact (h internal rfl).not_mem (by decide)

theorem SourceElement.eq_of_names {first second name1 name2 : String} (hfirst : SourceElement first)
    (hsecond : SourceElement second) (hname1 : NamesElement first name1)
    (hname2 : NamesElement second name2) (h : name1 = name2) : first = second := by
  cases hname1 with
  | primitive hmem1 =>
    cases hname2 with
    | primitive hmem2 =>
      subst h
      rw [letter_unique hmem1 hmem2]
    | classType internal => exact absurd h.symm ((hsecond internal rfl).dotted_ne hmem1)
  | classType internal =>
    cases hname2 with
    | primitive hmem2 => exact absurd h ((hfirst internal rfl).dotted_ne hmem2)
    | classType other =>
      have hdot1 := (hfirst internal rfl).not_mem (c := '.') (by decide)
      have hdot2 := (hsecond other rfl).not_mem (c := '.') (by decide)
      rw [dotted_inj hdot1 hdot2 h]

/-- A type that source code can name is some brackets and an element. -/
theorem SourceType.exists_element (h : SourceType text) :
    ∃ n element name, text = repeated n "[" ++ element ∧ NamesElement element name ∧
      SourceElement element := by
  induction h with
  | primitive hmem =>
    refine ⟨0, _, _, ?_, .primitive hmem, fun internal heq => ?_⟩
    · exact (String.empty_append).symm
    · have hlength := congrArg String.toList heq
      simp at hlength
  | @classType internal hinternal =>
    refine ⟨0, _, _, ?_, .classType internal, fun other heq => ?_⟩
    · exact (String.empty_append).symm
    · rw [String.append_left_inj, String.append_right_inj] at heq
      exact heq ▸ hinternal
  | array _ ih =>
    obtain ⟨n, element, name, rfl, hrest⟩ := ih
    refine ⟨n + 1, element, name, ?_, hrest⟩
    rw [repeated_succ, String.append_assoc]

/-- Brackets behind a name are counted. -/
theorem append_repeated_inj {first second : String} {n m : Nat} (hfirst : '[' ∉ first.toList)
    (hsecond : '[' ∉ second.toList)
    (h : first ++ repeated n "[]" = second ++ repeated m "[]") : first = second ∧ n = m := by
  have hstart : ∀ (text : String) (k : Nat), '[' ∉ text.toList →
      (text ++ repeated k "[]").toList.takeWhile (· != '[') = text.toList := by
    intro text k htext
    rw [String.toList_append]
    cases k with
    | zero =>
      have hnone : (repeated 0 "[]").toList = [] := rfl
      rw [hnone, List.append_nil, Text.takeWhile_eq_self_iff.2 htext]
    | succ k =>
      have hsome : (repeated (k + 1) "[]").toList = '[' :: ']' :: (repeated k "[]").toList := by
        rw [repeated_succ, String.toList_append]
        rfl
      rw [hsome, Text.takeWhile_append_delimiter, Text.takeWhile_eq_self_iff.2 htext]
  have hnames : first = second := by
    apply String.toList_inj.1
    rw [← hstart first n hfirst, h, hstart second m hsecond]
  subst hnames
  rw [String.append_right_inj] at h
  have hlength := length_repeated_brackets n
  rw [h, length_repeated_brackets m] at hlength
  exact ⟨rfl, by omega⟩

/-- Types that source code can name have different names when they are different. -/
theorem SourceType.eq_of_typeName_eq {first second : String} (hfirst : SourceType first)
    (hsecond : SourceType second) (h : typeName first = typeName second) : first = second := by
  obtain ⟨n, element1, name1, rfl, hname1, hsource1⟩ := hfirst.exists_element
  obtain ⟨m, element2, name2, rfl, hname2, hsource2⟩ := hsecond.exists_element
  rw [typeName_of_names n hname1, typeName_of_names m hname2] at h
  obtain ⟨hname, rfl⟩ := append_repeated_inj (hsource1.bracket_not_mem hname1)
    (hsource2.bracket_not_mem hname2) h
  rw [hsource1.eq_of_names hsource2 hname1 hname2 hname]

/-- The last slash of an internal name becomes the dot behind the package. -/
theorem packageOf_typeName_nested {outer simple : String} (hdot : '.' ∉ simple.toList)
    (hslash : '/' ∉ simple.toList) :
    packageOf (typeName ("L" ++ (outer ++ "/" ++ simple) ++ ";")) = dotted outer := by
  have hdotted : dotted "/" = "." := by decide
  rw [typeName_classType, dotted_append, dotted_append, hdotted,
    packageOf_nested (not_mem_dotted hdot hslash)]

/-- A class with a slash in its internal name is in the package before the last one. -/
theorem InternalName.exists_package (h : InternalName internal) (hslash : '/' ∈ internal.toList) :
    ∃ outer simple, internal = outer ++ "/" ++ simple ∧ '/' ∉ simple.toList ∧
      packageOf (typeName ("L" ++ internal ++ ";")) = dotted outer := by
  obtain ⟨outer, simple, hsimple, hcut⟩ := Text.exists_append_singleton_append hslash
  have hdot : '.' ∉ simple.toList := by
    have hnone := h.not_mem (c := '.') (by decide)
    rw [hcut, String.toList_append, List.mem_append, not_or] at hnone
    exact hnone.2
  refine ⟨outer, simple, hcut, hsimple, ?_⟩
  rw [hcut]
  exact packageOf_typeName_nested hdot hsimple

/-! ## The law -/

/-- A descriptor is named by what it describes, with two brackets behind the name for each one in
front, and a text that describes no type keeps itself for a name. Types that source code can name have
different names when they are different, and the package of a class among them is what its internal
name has before the last slash. -/
theorem names_tell_types_apart :
    (∀ n element name, NamesElement element name →
      typeName (repeated n "[" ++ element) = name ++ repeated n "[]") ∧
    (∀ text, (∀ n element name, NamesElement element name → text ≠ repeated n "[" ++ element) →
      typeName text = text) ∧
    (∀ first second, SourceType first → SourceType second → typeName first = typeName second →
      first = second) ∧
    ∀ internal, InternalName internal → '/' ∈ internal.toList →
      ∃ outer simple, internal = outer ++ "/" ++ simple ∧ '/' ∉ simple.toList ∧
        packageOf (typeName ("L" ++ internal ++ ";")) = dotted outer := by
  exact ⟨fun n element name => typeName_of_names n, fun text => typeName_of_no_element,
    fun first second => SourceType.eq_of_typeName_eq,
    fun internal hinternal => hinternal.exists_package⟩

theorem internalName_nested : InternalName "com/app/A" where
  segments := by
    have hsegments : Text.splitChars '/' "com/app/A".toList =
        ["com".toList, "app".toList, "A".toList] := by decide
    rw [hsegments]
    simp
  noKeyword := by simp [primitives]

/-- An array of arrays of a class, a text that describes nothing, and two arrays of different
elements. -/
theorem names_of_arrays_and_of_no_type :
    typeName "[[Lcom/app/A;" = "com.app.A[][]" ∧ typeName "[com.app.A" = "[com.app.A" ∧
      typeName "[I" ≠ typeName "[[I" ∧
      ∃ outer simple, "com/app/A" = outer ++ "/" ++ simple ∧ '/' ∉ simple.toList ∧
        packageOf (typeName "Lcom/app/A;") = dotted outer := by
  obtain ⟨hnamed, hunnamed, hinjective, hpackage⟩ := names_tell_types_apart
  refine ⟨hnamed 2 _ _ (.classType "com/app/A"), hunnamed "[com.app.A" ?_, ?_,
    hpackage "com/app/A" internalName_nested (by decide)⟩
  · intro n element name hname heq
    have hrest := dropWhile_repeated_bracket n hname.head?_ne
    have hnone : (primitiveName? ("[com.app.A".toList.dropWhile (· == '['))).or
        (className? ("[com.app.A".toList.dropWhile (· == '['))) = none := by decide
    rw [← String.ofList_toList (s := element), ← elementName_eq_some_iff, ← hrest, ← heq,
      hnone] at hname
    cases hname
  · intro h
    have hletter : ('I', "int") ∈ primitives := by decide
    have hnumber : SourceType "I" := .primitive hletter
    have hsame := hinjective "[I" "[[I" hnumber.array hnumber.array.array h
    exact absurd hsame (by decide)

end AppBoundary
