-- The filter against the rules of the same entries. What a rule covers with
-- regard to case the filter finds, so the census misses none of it. The filter
-- may find more: it looks inside names and takes every star for a wildcard.
import AppBoundary.Proofs.Census
import AppBoundary.Proofs.Filter.Reading
import AppBoundary.Proofs.Pattern.Packages

namespace AppBoundary

/-! ## Rules with regard to case -/

/-- The rule covers the class of this name, letter for letter. -/
def Rule.coversInCase (rule : Rule) (name : String) : Bool :=
  match rule.kind with
  | .exactClass => name == rule.source
  | .package expected => packageOf name == expected
  | .superPackage start => Text.startsWith start name
  | .defaultPackage => (packageOf name).isEmpty

/-- Some rule covers the class of this name, letter for letter. -/
def RuleSet.coversInCase (rules : RuleSet) (name : String) : Bool :=
  rules.rules.any (·.coversInCase name)

/-- The classifier takes every class that a rule covers letter for letter. -/
theorem Rule.covers_of_coversInCase {rule : Rule} {name : String}
    (h : rule.coversInCase name = true) : rule.covers name (packageOf name) = true := by
  obtain ⟨kind, source⟩ := rule
  cases kind with
  | exactClass =>
    simp only [coversInCase, beq_iff_eq] at h
    simp only [covers, Text.eqIgnoreCase_iff, h]
  | package expected =>
    simp only [coversInCase, beq_iff_eq] at h
    simp only [covers, Text.eqIgnoreCase_iff, h]
  | superPackage start => exact h
  | defaultPackage => exact h

theorem RuleSet.isApplication_of_coversInCase {rules : RuleSet} {name : String}
    (h : rules.coversInCase name = true) : rules.isApplication name = true := by
  simp only [coversInCase, isApplication, List.any_eq_true] at h ⊢
  obtain ⟨rule, hrule, hcovers⟩ := h
  exact ⟨rule, hrule, Rule.covers_of_coversInCase hcovers⟩

namespace Filter

open Regex (choice)

/-! ## Texts of an entry in a covered name -/

/-- A package with its dot, and stars behind it, stand for the package with its dot. -/
theorem spells_inside (package : String) (n : Nat) :
    Spells (package.toList ++ '.' :: List.replicate n '*') (package.toList ++ ['.']) :=
  spells_append (spells_self _) (.character (by decide) (spells_stars n))

/-- A name that begins with a package and a dot has a part that the entry stands for. -/
theorem spells_start {package name rest : String} (n : Nat) (hname : name = package ++ "." ++ rest) :
    ∃ before part after, name.toList = before ++ part ++ after ∧
      Spells (package.toList ++ '.' :: List.replicate n '*') part :=
  ⟨[], package.toList ++ ['.'], rest.toList, by simp [hname], spells_inside package n⟩

/-- A name that the rule of an entry covers letter for letter has a part that the entry stands
for. Only the entry that names the package without a name asks for a dot that no such name has. -/
theorem spells_of_coversInCase {entry name : String} (hentry : entry ≠ ".*")
    (h : (ruleOf entry).coversInCase name = true) :
    ∃ before part after, name.toList = before ++ part ++ after ∧ Spells entry.toList part := by
  rcases RuleKind.shape entry with rfl | ⟨outer, rfl⟩ | ⟨expected, rfl⟩ | ⟨h1, h2, h3⟩
  · exact ⟨[], [], name.toList, rfl, spells_stars 2⟩
  · simp only [ruleOf, RuleKind.ofEntry_superPackage, Rule.coversInCase, startsWith_iff] at h
    obtain ⟨rest, hname⟩ := h
    simpa using spells_start 2 hname
  · simp only [ruleOf, RuleKind.ofEntry_package, Rule.coversInCase, beq_iff_eq] at h
    cases liesIn_iff.2 h with
    | nested hsimple => simpa using spells_start 1 rfl
    | default hdot => exact absurd rfl hentry
  · simp only [ruleOf, RuleKind.ofEntry_exactClass h1 h2 h3, Rule.coversInCase, beq_iff_eq] at h
    exact ⟨[], entry.toList, [], by simp [h], spells_self _⟩

/-! ## The search -/

theorem isMatch_of_coversInCase {entries : List String} {rules : RuleSet} {filter : Filter}
    {limit : Regex.Limit}
    (hplain : ∀ entry ∈ entries, Plain entry.toList) (hdot : ∀ entry ∈ entries, entry ≠ ".*")
    (hrules : RuleSet.parse entries = .ok rules) (hfilter : ofEntries entries limit = .ok filter)
    {name : String} (h : rules.coversInCase name = true) : filter.isMatch name = true := by
  obtain ⟨-, rfl⟩ := RuleSet.parse_eq_ok_iff.1 hrules
  simp only [RuleSet.coversInCase, List.any_map, List.any_eq_true, Function.comp_apply] at h
  obtain ⟨entry, hentry, hcovers⟩ := h
  exact (isMatch_iff_spells hplain hfilter).2
    ⟨entry, hentry, spells_of_coversInCase (hdot entry hentry) hcovers⟩

/-! ## The law -/

/-- The census misses nothing that the classifier takes letter for letter. For a list of plain
entries, none of them blank, every name that a rule covers letter for letter has a match of the
filter, so the census counts at least the covered classes and the methods of covered classes. The
limit on the size of the filter decides whether there is one, and nothing else. -/
theorem the_census_misses_no_covered_class {entries : List String} {filter : Filter}
    {limit : Regex.Limit} (hne : entries ≠ []) (hblank : ∀ entry ∈ entries, Text.isBlank entry = false)
    (hdot : ∀ entry ∈ entries, entry ≠ ".*")
    (hplain : ∀ entry ∈ entries, ∀ c ∈ entry.toList, c ∉ metacharacters)
    (hfilter : ofEntries entries limit = .ok filter) :
    ∃ rules, RuleSet.parse entries = .ok rules ∧
      (∀ name, rules.coversInCase name = true →
        rules.isApplication name = true ∧ filter.isMatch name = true ∧
          1 ≤ filter.countMatches name) ∧
      ∀ index : ClassIndex,
        index.classes.countP (fun descriptor => rules.coversInCase (typeName descriptor)) ≤
          filter.countClasses index ∧
        index.methods.countP (fun method => rules.coversInCase (typeName (ownerOfMethod method))) ≤
          filter.countMethods index := by
  have hrules := RuleSet.parse_eq_ok_iff.2 ⟨⟨hne, hblank⟩, rfl⟩
  have hmatch : ∀ name, RuleSet.coversInCase ⟨entries.map ruleOf⟩ name = true →
      filter.isMatch name = true :=
    fun name h => isMatch_of_coversInCase hplain hdot hrules hfilter h
  have hcount : ∀ name, RuleSet.coversInCase ⟨entries.map ruleOf⟩ name = true →
      1 ≤ filter.countMatches name :=
    fun name h => Regex.countMatches_pos_iff.2 (hmatch name h)
  refine ⟨_, hrules, fun name h => ?_, fun index => ⟨?_, ?_⟩⟩
  · exact ⟨RuleSet.isApplication_of_coversInCase h, hmatch name h, hcount name h⟩
  · rw [countClasses_eq_total]
    exact countP_le_total (fun descriptor h => hcount (typeName descriptor) h) index.classes
  · rw [countMethods_eq_total]
    exact countP_le_total (fun method h => hcount (typeName (ownerOfMethod method)) h) index.methods

/-- A star inside a package name is a letter for the rules and a wildcard for the filter, and still
a class of that package and its method are counted. -/
theorem the_census_misses_no_class_of_a_starred_package :
    ∃ filter, ofEntries ["a*.b.*", "c.**"] = .ok filter ∧
      filter.isMatch "a*.b.D" = true ∧
      1 ≤ filter.countClasses ⟨["La*/b/D;"], ["La*/b/D;->run()V"]⟩ ∧
      1 ≤ filter.countMethods ⟨["La*/b/D;"], ["La*/b/D;->run()V"]⟩ := by
  have hfilter : ofEntries ["a*.b.*", "c.**"] = .ok ⟨"(?:a.*\\.b\\..*)|(?:c\\..*)",
      choice (["a*.b.*", "c.**"].map expressionOf)⟩ := rfl
  obtain ⟨rules, hrules, hnames, hcounts⟩ := the_census_misses_no_covered_class
    (by simp) (by decide) (by decide) (by simp [metacharacters]) hfilter
  obtain ⟨-, rfl⟩ := RuleSet.parse_eq_ok_iff.1 hrules
  have hname := hnames "a*.b.D" (by decide)
  obtain ⟨hclasses, hmethods⟩ := hcounts ⟨["La*/b/D;"], ["La*/b/D;->run()V"]⟩
  refine ⟨_, hfilter, hname.2.1, Nat.le_trans ?_ hclasses, Nat.le_trans ?_ hmethods⟩
  · decide
  · decide

end Filter

end AppBoundary
