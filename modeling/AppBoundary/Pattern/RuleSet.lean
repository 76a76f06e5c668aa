-- Lists of application patterns, read as a whole: one bad entry refuses the
-- list.
import AppBoundary.Pattern.Rule

namespace AppBoundary

/-! ## Rule sets -/

/-- The rules of one run, in the order they were given. -/
structure RuleSet where
  rules : List Rule
deriving DecidableEq

/-- The rules of a list of entries. The list holds at least one entry, and none is blank. -/
def RuleSet.parse (entries : List String) : Except Fault RuleSet :=
  if entries.isEmpty then .error (.configuration .noPatterns)
  else (entries.mapM Rule.parse).map RuleSet.mk

/-- The number of rules. -/
def RuleSet.size (set : RuleSet) : Nat :=
  set.rules.length

/-! ## Counts -/

/-- How many rules of each kind a set holds. -/
structure RuleCounts where
  classes : Nat
  packages : Nat
  superPackages : Nat
  defaultPackages : Nat
deriving DecidableEq

/-- The counts of a set. -/
def RuleSet.counts (set : RuleSet) : RuleCounts :=
  { classes := set.rules.countP (·.kind matches .exactClass)
    packages := set.rules.countP (·.kind matches .package _)
    superPackages := set.rules.countP (·.kind matches .superPackage _)
    defaultPackages := set.rules.countP (·.kind matches .defaultPackage) }

/-- The counts as the summary shows them. -/
def RuleCounts.text (counts : RuleCounts) : String :=
  Text.decimal counts.classes ++ " classes, " ++ Text.decimal counts.packages ++ " packages, "
    ++ Text.decimal counts.superPackages ++ " super-packages, "
    ++ Text.decimal counts.defaultPackages ++ " default-package"

/-- Every rule is counted once. -/
theorem RuleSet.counts_total (set : RuleSet) :
    set.counts.classes + set.counts.packages + set.counts.superPackages
      + set.counts.defaultPackages = set.size := by
  obtain ⟨rules⟩ := set
  simp only [counts, size]
  induction rules with
  | nil => rfl
  | cons rule rest ih =>
    simp only [List.countP_cons, List.length_cons]
    cases rule.kind <;> simp <;> omega

end AppBoundary
