-- Descriptors and the names they stand for: how a class descriptor is taken
-- apart, and where a hyphen in it goes.
import AppBoundary.Descriptor
import AppBoundary.Proofs.Text.Delimiter

namespace AppBoundary

/-! ## Descriptors taken apart -/

/-- Only a text between `L` and a semicolon describes a class. -/
theorem className?_eq_some_iff {element : List Char} {name : String} :
    className? element = some name ↔
      ∃ internal, element = 'L' :: internal ++ [';'] ∧
        name = String.ofList (internal.map fun c => if c = '/' then '.' else c) := by
  constructor
  · intro h
    simp only [className?, Option.bind_eq_some_iff, Option.map_eq_some_iff] at h
    obtain ⟨rest, hrest, internal, hinternal, rfl⟩ := h
    have hrest : element = 'L' :: rest.toList := by
      simpa using congrArg String.toList (Text.eq_of_afterStart?_eq_some hrest)
    refine ⟨internal.toList, ?_, rfl⟩
    rw [hrest, Text.eq_of_beforeEnd?_eq_some hinternal]
    simp
  · rintro ⟨internal, rfl, rfl⟩
    have htext : String.ofList ('L' :: internal ++ [';']) = "L" ++ (String.ofList internal ++ ";") :=
      String.toList_inj.1 (by simp)
    rw [className?, htext, Text.afterStart?_append, Option.bind_some, Text.beforeEnd?_append]
    simp

/-! ## Hyphens -/

theorem not_mem_of_primitiveName? {element : List Char} {name : String}
    (h : primitiveName? element = some name) : '-' ∉ element ∧ '-' ∉ name.toList := by
  unfold primitiveName? at h
  split at h <;> simp only [reduceCtorEq, Option.some.injEq] at h <;> subst h <;> decide

theorem mem_of_className? {element : List Char} {name : String}
    (h : className? element = some name) : '-' ∈ name.toList ↔ '-' ∈ element := by
  obtain ⟨internal, rfl, rfl⟩ := className?_eq_some_iff.1 h
  simp only [String.toList_ofList, List.mem_map, List.cons_append, List.mem_cons, List.mem_append,
    List.not_mem_nil, or_false]
  constructor
  · rintro ⟨c, hc, heq⟩
    split at heq
    · simp at heq
    · exact Or.inr (Or.inl (heq ▸ hc))
  · rintro (h | h | h)
    · simp at h
    · exact ⟨'-', h, by simp⟩
    · simp at h

theorem mem_of_element {element : List Char} {name : String}
    (h : (primitiveName? element).or (className? element) = some name) :
    '-' ∈ name.toList ↔ '-' ∈ element := by
  rcases Option.or_eq_some_iff.1 h with hprimitive | ⟨-, hclass⟩
  · obtain ⟨helement, hname⟩ := not_mem_of_primitiveName? hprimitive
    exact iff_of_false hname helement
  · exact mem_of_className? hclass

theorem not_mem_dimensions (n : Nat) : '-' ∉ (String.join (List.replicate n "[]")).toList := by
  simp

/-- The name of a type has a hyphen when its descriptor has one: brackets, slashes and the letters
of primitive types are changed, a hyphen never is. -/
theorem mem_typeName_iff {descriptor : String} :
    '-' ∈ (typeName descriptor).toList ↔ '-' ∈ descriptor.toList := by
  have hbrackets : '-' ∈ descriptor.toList ↔ '-' ∈ descriptor.toList.dropWhile (· == '[') := by
    constructor
    · intro h
      rw [← List.takeWhile_append_dropWhile (p := (· == '[')) (l := descriptor.toList),
        List.mem_append] at h
      refine h.resolve_left fun hmem => ?_
      simpa using List.mem_takeWhile_imp hmem
    · exact fun h => (List.dropWhile_sublist _).mem h
  simp only [typeName]
  split
  · rename_i name hname
    rw [String.toList_append, List.mem_append, or_iff_left (not_mem_dimensions _),
      mem_of_element hname, hbrackets]
  · rfl

/-! ## Owners -/

/-- The descriptor taken for the owner of a method has no hyphen. -/
theorem not_mem_ownerOfMethod (method : String) : '-' ∉ (ownerOfMethod method).toList := by
  rw [ownerOfMethod, String.toList_ofList]
  exact Text.not_mem_takeWhile

/-- A text without a hyphen is its own owner. -/
theorem ownerOfMethod_eq_self_iff {text : String} :
    ownerOfMethod text = text ↔ '-' ∉ text.toList := by
  rw [← String.toList_inj, ownerOfMethod, String.toList_ofList, Text.takeWhile_eq_self_iff]

/-- What stands behind a hyphen plays no part in the owner. -/
theorem ownerOfMethod_append_hyphen (text rest : String) :
    ownerOfMethod (text ++ "-" ++ rest) = ownerOfMethod text := by
  have hsplit : (text ++ "-" ++ rest).toList = text.toList ++ '-' :: rest.toList := by simp
  rw [ownerOfMethod, hsplit, Text.takeWhile_append_delimiter, ownerOfMethod]

end AppBoundary
