-- The package of a name: what comes before its last dot.
import AppBoundary.ClassName
import AppBoundary.Proofs.Text.Delimiter
import AppBoundary.Text.Affix

namespace AppBoundary

/-! ## The meaning of a package -/

/-- A name lies in a package: its last dot stands behind the package, or it has no dot and the
package is empty. -/
inductive LiesIn : (name package : String) → Prop
  | nested {package simple : String} :
      '.' ∉ simple.toList → LiesIn (package ++ "." ++ simple) package
  | default {name : String} : '.' ∉ name.toList → LiesIn name ""

/-! ## Cutting at the last dot -/

theorem packageOf_nested {package simple : String} (h : '.' ∉ simple.toList) :
    packageOf (package ++ "." ++ simple) = package := by
  have hdrop : ((package ++ "." ++ simple).toList.reverse.dropWhile (· != '.')) =
      '.' :: package.toList.reverse := by
    simp only [String.toList_append, List.reverse_append]
    rw [List.dropWhile_append_of_pos]
    · simp
    · exact Text.bne_of_not_mem (by simpa using h)
  simp only [packageOf, hdrop, List.drop_succ_cons, List.drop_zero, List.reverse_reverse,
    String.ofList_toList]

theorem packageOf_of_no_dot {name : String} (h : '.' ∉ name.toList) : packageOf name = "" := by
  have hdrop : (name.toList.reverse.dropWhile (· != '.')) = [] := by
    rw [List.dropWhile_eq_nil_iff]
    exact Text.bne_of_not_mem (by simpa using h)
  simp only [packageOf, hdrop, List.drop_nil, List.reverse_nil, String.ofList_nil]

/-- A name with a dot is cut at the last one. -/
theorem exists_last_dot {name : String} (h : '.' ∈ name.toList) :
    ∃ package simple, '.' ∉ simple.toList ∧ name = package ++ "." ++ simple :=
  Text.exists_append_singleton_append h

theorem liesIn_iff {name package : String} : LiesIn name package ↔ packageOf name = package := by
  constructor
  · rintro (⟨hs⟩ | ⟨hn⟩)
    · exact packageOf_nested hs
    · exact packageOf_of_no_dot hn
  · rintro rfl
    by_cases hdot : '.' ∈ name.toList
    · obtain ⟨package, simple, hs, rfl⟩ := exists_last_dot hdot
      rw [packageOf_nested hs]
      exact .nested hs
    · rw [packageOf_of_no_dot hdot]
      exact .default hdot

/-! ## A start of a name that ends in a dot -/

/-- A name begins with a package and a dot when it lies in that package or in a nested one. -/
theorem begins_iff_liesIn {outer : String} (hne : outer ≠ "") {name : String} :
    (∃ rest, name = outer ++ "." ++ rest) ↔
      ∃ package, LiesIn name package ∧
        (package = outer ∨ ∃ rest, package = outer ++ "." ++ rest) := by
  constructor
  · rintro ⟨rest, rfl⟩
    by_cases hdot : '.' ∈ rest.toList
    · obtain ⟨inner, simple, hs, rfl⟩ := exists_last_dot hdot
      have hlies : LiesIn (outer ++ "." ++ inner ++ "." ++ simple) (outer ++ "." ++ inner) :=
        .nested hs
      refine ⟨outer ++ "." ++ inner, ?_, Or.inr ⟨inner, rfl⟩⟩
      simpa only [String.append_assoc] using hlies
    · exact ⟨outer, .nested hdot, Or.inl rfl⟩
  · rintro ⟨package, hlies, hpackage⟩
    cases hlies with
    | nested hs =>
      rename_i simple
      rcases hpackage with rfl | ⟨rest, rfl⟩
      · exact ⟨simple, rfl⟩
      · exact ⟨rest ++ "." ++ simple, by simp only [String.append_assoc]⟩
    | default hn =>
      rcases hpackage with h | ⟨rest, h⟩
      · exact absurd h.symm hne
      · have := congrArg String.toList h
        simp at this

end AppBoundary
