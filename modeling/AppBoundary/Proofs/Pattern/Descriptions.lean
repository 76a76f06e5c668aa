-- Classes given by their full names and by their descriptions. A name is given
-- back by its description, and both decide alike. A description is given back by
-- its name only if no dot stands behind the one that ends its package, and only
-- then does every rule set decide alike for the two.
import AppBoundary.Proofs.Pattern.LetterCase

namespace AppBoundary

open Text (lower)

namespace ClassDescription

variable {name package simple : String} {description other : ClassDescription}

/-! ## Descriptions read off names -/

theorem ofName_of_no_package (h : packageOf name = "") : ofName name = ⟨"", name⟩ := by
  rw [ofName, h]
  rfl

theorem ofName_nested (hpackage : package ≠ "") (hsimple : '.' ∉ simple.toList) :
    ofName (package ++ "." ++ simple) = ⟨package, simple⟩ := by
  have hnonempty : package.isEmpty = false := by
    rwa [Bool.eq_false_iff, ne_eq, String.isEmpty_iff]
  have hrest : (package ++ "." ++ simple).toList.drop (package.toList.length + 1) =
      simple.toList := by
    rw [String.toList_append, List.drop_left' (by simp)]
  rw [ofName, packageOf_nested hsimple]
  simp only [hnonempty, hrest, Bool.false_eq_true, if_false, String.ofList_toList]

theorem package_ofName (name : String) : (ofName name).package = packageOf name := by
  rw [ofName]
  split <;> rfl

/-! ## Full names -/

theorem qualifiedName_of_no_package (simple : String) :
    qualifiedName ⟨"", simple⟩ = simple := rfl

theorem qualifiedName_nested (hpackage : package ≠ "") (simple : String) :
    qualifiedName ⟨package, simple⟩ = package ++ "." ++ simple := by
  rw [qualifiedName, if_neg (by rwa [String.isEmpty_iff])]

/-- A name is given back by its description. -/
theorem qualifiedName_ofName (name : String) : (ofName name).qualifiedName = name := by
  by_cases hpackage : packageOf name = ""
  · rw [ofName_of_no_package hpackage, qualifiedName_of_no_package]
  · have hdot : '.' ∈ name.toList := by
      by_contra hnone
      exact hpackage (packageOf_of_no_dot hnone)
    obtain ⟨package, simple, hsimple, rfl⟩ := exists_last_dot hdot
    rw [packageOf_nested hsimple] at hpackage
    rw [ofName_nested hpackage hsimple, qualifiedName_nested hpackage]

/-- Within one package, classes of one full name have one simple name. -/
theorem eq_of_qualifiedName_eq (hpackage : description.package = other.package)
    (h : description.qualifiedName = other.qualifiedName) : description = other := by
  obtain ⟨package, simple⟩ := description
  obtain ⟨_, simple'⟩ := other
  obtain rfl : package = _ := hpackage
  by_cases hempty : package = ""
  · subst hempty
    rw [qualifiedName_of_no_package, qualifiedName_of_no_package] at h
    rw [h]
  · rw [qualifiedName_nested hempty, qualifiedName_nested hempty] at h
    have hlists := congrArg String.toList h
    simp only [String.toList_append, List.append_cancel_left_eq, String.toList_inj] at hlists
    rw [hlists]

/-! ## Descriptions given back by their full names -/

/-- The simple name has no dot, or it begins with its only one and there is no package. -/
def Canonical (description : ClassDescription) : Prop :=
  '.' ∉ description.simpleName.toList ∨
    description.package = "" ∧
      ∃ rest : String, description.simpleName = "." ++ rest ∧ '.' ∉ rest.toList

/-- The package that the full name lies in, where the simple name has a dot. -/
theorem packageOf_qualifiedName_dotted {inner last : String} (hlast : '.' ∉ last.toList) :
    packageOf (qualifiedName ⟨package, inner ++ "." ++ last⟩) =
      if package = "" then inner else package ++ "." ++ inner := by
  split
  · rename_i hempty
    rw [hempty, qualifiedName_of_no_package, packageOf_nested hlast]
  · rename_i hpackage
    rw [qualifiedName_nested hpackage,
      show package ++ "." ++ (inner ++ "." ++ last) = package ++ "." ++ inner ++ "." ++ last by
        simp only [String.append_assoc],
      packageOf_nested hlast]

theorem packageOf_qualifiedName_plain (hsimple : '.' ∉ simple.toList) :
    packageOf (qualifiedName ⟨package, simple⟩) = package := by
  by_cases hpackage : package = ""
  · rw [hpackage, qualifiedName_of_no_package, packageOf_of_no_dot hsimple]
  · rw [qualifiedName_nested hpackage, packageOf_nested hsimple]

/-- The package that the full name lies in differs from the one of the description in more than
letter case, or not at all. -/
theorem canonical_of_lower_packageOf_eq
    (h : lower (packageOf description.qualifiedName) = lower description.package) :
    description.Canonical := by
  obtain ⟨package, simple⟩ := description
  by_cases hdot : '.' ∈ simple.toList
  · obtain ⟨inner, last, hlast, rfl⟩ := exists_last_dot hdot
    rw [packageOf_qualifiedName_dotted hlast] at h
    split at h
    · rename_i hempty
      subst hempty
      rw [Text.lower_eq_nil_iff.2 rfl, Text.lower_eq_nil_iff] at h
      subst h
      exact Or.inr ⟨rfl, last, by simp, hlast⟩
    · rw [lower_nested] at h
      have hlength := congrArg List.length h
      simp only [List.length_append, List.length_cons] at hlength
      omega
  · exact Or.inl hdot

theorem packageOf_qualifiedName_iff :
    packageOf description.qualifiedName = description.package ↔ description.Canonical := by
  constructor
  · intro h
    exact canonical_of_lower_packageOf_eq (congrArg lower h)
  · obtain ⟨package, simple⟩ := description
    rintro (hsimple | ⟨rfl, rest, rfl, hrest⟩)
    · exact packageOf_qualifiedName_plain hsimple
    · have hdotted : "." ++ rest = "" ++ "." ++ rest := by simp
      rw [hdotted, packageOf_qualifiedName_dotted hrest, if_pos rfl]

theorem ofName_qualifiedName_iff :
    ofName description.qualifiedName = description ↔ description.Canonical := by
  rw [← packageOf_qualifiedName_iff]
  constructor
  · intro h
    rw [← package_ofName, h]
  · intro h
    exact eq_of_qualifiedName_eq ((package_ofName _).trans h) (qualifiedName_ofName _)

end ClassDescription

namespace RuleSet

variable {description : ClassDescription}

/-! ## Decisions -/

theorem isApplicationClass_eq (rules : RuleSet)
    (h : packageOf description.qualifiedName = description.package) :
    rules.isApplicationClass description = rules.isApplication description.qualifiedName := by
  rw [isApplicationClass, isApplication, h]

theorem isApplicationClass_ofName (rules : RuleSet) (name : String) :
    rules.isApplicationClass (.ofName name) = rules.isApplication name := by
  have hname := ClassDescription.qualifiedName_ofName name
  rw [isApplicationClass_eq rules, hname]
  rw [hname, ClassDescription.package_ofName]

/-- The rule of the package of a description tells when the full name lies elsewhere. -/
theorem canonical_of_decisions_eq
    (h : ∀ rules : RuleSet,
      rules.isApplicationClass description = rules.isApplication description.qualifiedName) :
    description.Canonical := by
  have hcovered := h ⟨[ruleOf (description.package ++ ".*")]⟩
  have hself : Text.eqIgnoreCase description.package description.package = true :=
    (Text.eqIgnoreCase_iff _ _).2 rfl
  simp only [isApplicationClass, isApplication, List.any_cons, List.any_nil, Bool.or_false, ruleOf,
    RuleKind.ofEntry_package, Rule.covers, hself] at hcovered
  exact ClassDescription.canonical_of_lower_packageOf_eq
    ((Text.eqIgnoreCase_iff _ _).1 hcovered.symm).symm

end RuleSet

/-! ## The law -/

/-- Every name is the full name of its description, and a registry of such descriptions changes no
decision. A description is the one of its full name exactly when its simple name has no dot, or one
dot alone at its start and no package before it. These are also the descriptions for which every rule
set decides as it does for the full name. -/
theorem names_and_descriptions_decide_alike :
    (∀ name, (ClassDescription.ofName name).qualifiedName = name ∧
      ∀ rules : RuleSet, rules.isApplicationClass (.ofName name) = rules.isApplication name ∧
        rules.isApplicationIn .ofName name = rules.isApplication name) ∧
    ∀ description : ClassDescription,
      (ClassDescription.ofName description.qualifiedName = description ↔ description.Canonical) ∧
      ((∀ rules : RuleSet,
          rules.isApplicationClass description = rules.isApplication description.qualifiedName) ↔
        description.Canonical) := by
  refine ⟨fun name => ⟨ClassDescription.qualifiedName_ofName name, fun rules => ?_⟩,
    fun description => ⟨ClassDescription.ofName_qualifiedName_iff, ?_, ?_⟩⟩
  · have h := rules.isApplicationClass_ofName name
    exact ⟨h, h⟩
  · exact RuleSet.canonical_of_decisions_eq
  · intro hcanonical rules
    exact rules.isApplicationClass_eq (ClassDescription.packageOf_qualifiedName_iff.2 hcanonical)

/-- The class `B.C` of the package `a`, such as a nested one, is decided by that package, its full
name by the package `a.B`. -/
example : (⟨[ruleOf "a.*"]⟩ : RuleSet).isApplicationClass ⟨"a", "B.C"⟩ = true ∧
    (⟨[ruleOf "a.*"]⟩ : RuleSet).isApplication "a.B.C" = false := by
  decide

end AppBoundary
