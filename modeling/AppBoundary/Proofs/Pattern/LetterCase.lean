-- Letter case and the classifier. Names whose lowercase forms are equal lie in
-- packages whose lowercase forms are equal, and entries alike in the same way
-- make rules of the same kind, so only a rule that asks for the start of a name
-- can tell them apart.
import AppBoundary.Proofs.Pattern.Packages
import AppBoundary.Proofs.Text.Lowercase

namespace AppBoundary

open Text (lower IsMark)

/-! ## Packages -/

theorem lower_nested (package simple : String) :
    lower (package ++ "." ++ simple) = lower package ++ '.' :: lower simple := by
  have hdot : lower "." = ['.'] := by decide
  rw [Text.lower_append, Text.lower_append, hdot, List.append_assoc, List.singleton_append]

theorem dot_mem_iff_of_lower_eq {name1 name2 : String} (h : lower name1 = lower name2) :
    '.' ∈ name1.toList ↔ '.' ∈ name2.toList := by
  have hdot : IsMark '.' := by decide
  rw [← Text.mem_lower_iff hdot, h, Text.mem_lower_iff hdot]

/-- Names that are alike lie in packages that are alike. -/
theorem lower_packageOf_congr {name1 name2 : String} (h : lower name1 = lower name2) :
    lower (packageOf name1) = lower (packageOf name2) := by
  have hdot : IsMark '.' := by decide
  by_cases hmem : '.' ∈ name1.toList
  · obtain ⟨package, simple, hsimple, rfl⟩ := exists_last_dot hmem
    rw [lower_nested] at h
    obtain ⟨other, rest, hname2, hother, hrest⟩ := Text.exists_of_lower_eq_append_mark hdot h.symm
    have hlast : '.' ∉ rest.toList := by
      rwa [← Text.mem_lower_iff hdot, hrest, Text.mem_lower_iff hdot]
    have hname2 : name2 = other ++ "." ++ rest := hname2
    rw [packageOf_nested hsimple, hname2, packageOf_nested hlast, hother]
  · rw [packageOf_of_no_dot hmem, packageOf_of_no_dot (mt (dot_mem_iff_of_lower_eq h).2 hmem)]

theorem isEmpty_packageOf_congr {name1 name2 : String} (h : lower name1 = lower name2) :
    (packageOf name1).isEmpty = (packageOf name2).isEmpty := by
  rw [Bool.eq_iff_iff, String.isEmpty_iff, String.isEmpty_iff, ← Text.lower_eq_nil_iff,
    ← Text.lower_eq_nil_iff, lower_packageOf_congr h]

/-! ## Kinds of rules -/

/-- Two rules are of one kind, with names that are alike. -/
inductive RuleKind.Alike : RuleKind → RuleKind → Prop
  | exactClass : Alike .exactClass .exactClass
  | package {name1 name2} : lower name1 = lower name2 → Alike (.package name1) (.package name2)
  | superPackage {start1 start2} : lower start1 = lower start2 →
      Alike (.superPackage start1) (.superPackage start2)
  | defaultPackage : Alike .defaultPackage .defaultPackage

/-- Two rules are alike in their kinds and in their entries. -/
structure Rule.Alike (rule1 rule2 : Rule) : Prop where
  kind : rule1.kind.Alike rule2.kind
  source : lower rule1.source = lower rule2.source

namespace RuleKind

theorem Alike.refl (kind : RuleKind) : kind.Alike kind := by
  cases kind with
  | exactClass => exact .exactClass
  | package name => exact .package rfl
  | superPackage start => exact .superPackage rfl
  | defaultPackage => exact .defaultPackage

/-- The ending that tells the shape of an entry ends every entry that is alike. -/
theorem exists_ending {ending : String} (hending : ending ∈ ["**", ".**", ".*"])
    {entry other rest : String} (h : lower entry = lower other) (hentry : entry = rest ++ ending) :
    ∃ rest', other = rest' ++ ending ∧ lower rest' = lower rest := by
  have hmarks : ∀ ending ∈ ["**", ".**", ".*"], ∀ mark ∈ ending.toList, IsMark mark := by
    simp [IsMark]
  exact Text.exists_ending_of_lower_eq (hmarks ending hending) (hentry ▸ h.symm)

theorem eq_default_of_lower_eq {entry other : String} (h : lower entry = lower other)
    (hentry : entry = "**") : other = "**" := by
  have hends : entry = "" ++ "**" := hentry
  obtain ⟨rest, rfl, hrest⟩ := exists_ending (by simp) h hends
  rw [Text.lower_eq_nil_iff.1 hrest]
  rfl

/-- Entries that are alike make rules that are alike. -/
theorem ofEntry_congr {entry1 entry2 : String} (h : lower entry1 = lower entry2) :
    (ofEntry entry1).Alike (ofEntry entry2) := by
  rcases shape entry1 with h1 | ⟨outer, h1⟩ | ⟨name, h1⟩ | ⟨hdefault, hsuper, hpackage⟩
  · rw [h1, eq_default_of_lower_eq h h1, ofEntry_default]
    exact .defaultPackage
  · obtain ⟨outer', h2, houter⟩ := exists_ending (by simp) h h1
    rw [h1, h2, ofEntry_superPackage, ofEntry_superPackage]
    refine .superPackage ?_
    rw [Text.lower_append, Text.lower_append, houter]
  · obtain ⟨name', h2, hname⟩ := exists_ending (by simp) h h1
    rw [h1, h2, ofEntry_package, ofEntry_package]
    exact .package hname.symm
  · -- An ending of the second entry would be one of the first.
    have hsuper2 : ∀ outer, entry2 ≠ outer ++ ".**" := by
      intro outer h2
      obtain ⟨outer', h1, -⟩ := exists_ending (by simp) h.symm h2
      exact hsuper outer' h1
    have hpackage2 : ∀ name, entry2 ≠ name ++ ".*" := by
      intro name h2
      obtain ⟨name', h1, -⟩ := exists_ending (by simp) h.symm h2
      exact hpackage name' h1
    have hdefault2 : entry2 ≠ "**" := fun h2 => hdefault (eq_default_of_lower_eq h.symm h2)
    rw [ofEntry_exactClass hdefault hsuper hpackage, ofEntry_exactClass hdefault2 hsuper2 hpackage2]
    exact .exactClass

end RuleKind

theorem ruleOf_congr {entry1 entry2 : String} (h : lower entry1 = lower entry2) :
    (ruleOf entry1).Alike (ruleOf entry2) :=
  ⟨RuleKind.ofEntry_congr h, h⟩

/-! ## Decisions -/

/-- The rule asks for the start of a name. -/
def Rule.IsSuperPackage (rule : Rule) : Prop :=
  ∃ start, rule.kind = .superPackage start

theorem isSuperPackage_iff {rule : Rule} :
    (rule.kind matches .superPackage _) = true ↔ rule.IsSuperPackage := by
  unfold Rule.IsSuperPackage
  cases rule.kind <;> simp

instance (rule : Rule) : Decidable rule.IsSuperPackage :=
  decidable_of_iff _ isSuperPackage_iff

theorem eqIgnoreCase_congr {a1 a2 b1 b2 : String} (ha : lower a1 = lower a2)
    (hb : lower b1 = lower b2) : Text.eqIgnoreCase a1 b1 = Text.eqIgnoreCase a2 b2 := by
  rw [Bool.eq_iff_iff, Text.eqIgnoreCase_iff, Text.eqIgnoreCase_iff, ha, hb]

/-- Rules that are alike decide the same of names that are alike, unless they ask for the start of a
name. -/
theorem Rule.covers_congr {rule1 rule2 : Rule} (hrule : rule1.Alike rule2)
    (hsuper : ¬ rule1.IsSuperPackage) {name1 name2 : String} (hname : lower name1 = lower name2) :
    rule1.covers name1 (packageOf name1) = rule2.covers name2 (packageOf name2) := by
  obtain ⟨kind1, source1⟩ := rule1
  obtain ⟨kind2, source2⟩ := rule2
  obtain ⟨hkind, hsource⟩ := hrule
  cases hkind with
  | exactClass => exact eqIgnoreCase_congr hsource hname
  | package h => exact eqIgnoreCase_congr h (lower_packageOf_congr hname)
  | superPackage _ => exact absurd ⟨_, rfl⟩ hsuper
  | defaultPackage => exact isEmpty_packageOf_congr hname

namespace RuleSet

theorem isApplication_congr {rules1 rules2 : RuleSet}
    (hrules : List.Forall₂ Rule.Alike rules1.rules rules2.rules)
    (hsuper : ∀ rule ∈ rules1.rules, ¬ rule.IsSuperPackage) {name1 name2 : String}
    (hname : lower name1 = lower name2) :
    rules1.isApplication name1 = rules2.isApplication name2 := by
  obtain ⟨list1⟩ := rules1
  obtain ⟨list2⟩ := rules2
  simp only [isApplication] at hrules hsuper ⊢
  induction hrules with
  | nil => rfl
  | cons hrule _ ih =>
    obtain ⟨hfirst, hothers⟩ := List.forall_mem_cons.1 hsuper
    rw [List.any_cons, List.any_cons, Rule.covers_congr hrule hfirst hname, ih hothers]

theorem alike_of_parse {entries1 entries2 : List String} {rules1 rules2 : RuleSet}
    (hentries : List.Forall₂ (fun entry1 entry2 => lower entry1 = lower entry2) entries1 entries2)
    (h1 : parse entries1 = .ok rules1) (h2 : parse entries2 = .ok rules2) :
    List.Forall₂ Rule.Alike rules1.rules rules2.rules := by
  obtain ⟨-, rfl⟩ := parse_eq_ok_iff.1 h1
  obtain ⟨-, rfl⟩ := parse_eq_ok_iff.1 h2
  simp only [List.forall₂_map_left_iff, List.forall₂_map_right_iff]
  exact hentries.imp fun _ _ => ruleOf_congr

/-- A decision that differs is one that some rule makes differently. -/
theorem exists_rule_of_isApplication_ne {rules : RuleSet} {name1 name2 : String}
    (h : rules.isApplication name1 ≠ rules.isApplication name2) :
    ∃ rule ∈ rules.rules,
      rule.covers name1 (packageOf name1) ≠ rule.covers name2 (packageOf name2) := by
  by_contra hnone
  simp only [not_exists, not_and, not_not] at hnone
  refine h ?_
  rw [isApplication, isApplication, Bool.eq_iff_iff, List.any_eq_true, List.any_eq_true]
  exact exists_congr fun rule => and_congr_right fun hrule => by rw [hnone rule hrule]

end RuleSet

/-! ## The law -/

/-- Only rules that ask for the start of a name see letter case. Where two names that are alike are
classified differently, one of them and not the other has such a start. Lists of patterns that are
alike, entry by entry, make rules that are alike, and without rules of that kind both lists decide
the same of all names that are alike. -/
theorem only_starts_of_names_see_letter_case :
    (∀ (rules : RuleSet) (name1 name2 : String), lower name1 = lower name2 →
      rules.isApplication name1 ≠ rules.isApplication name2 →
      ∃ rule ∈ rules.rules, ∃ start, rule.kind = .superPackage start ∧
        Text.startsWith start name1 ≠ Text.startsWith start name2) ∧
    ∀ (entries1 entries2 : List String) (rules1 rules2 : RuleSet),
      List.Forall₂ (fun entry1 entry2 => lower entry1 = lower entry2) entries1 entries2 →
      RuleSet.parse entries1 = .ok rules1 → RuleSet.parse entries2 = .ok rules2 →
      List.Forall₂ Rule.Alike rules1.rules rules2.rules ∧
        ((∀ rule ∈ rules1.rules, ¬ rule.IsSuperPackage) →
          ∀ name1 name2, lower name1 = lower name2 →
            rules1.isApplication name1 = rules2.isApplication name2) := by
  refine ⟨fun rules name1 name2 hname h => ?_, fun entries1 entries2 rules1 rules2 he h1 h2 => ?_⟩
  · obtain ⟨rule, hrule, hcovers⟩ := RuleSet.exists_rule_of_isApplication_ne h
    have hself : rule.Alike rule := ⟨.refl _, rfl⟩
    have hsuper : rule.IsSuperPackage := by
      by_contra hother
      exact hcovers (Rule.covers_congr hself hother hname)
    obtain ⟨start, hstart⟩ := hsuper
    simp only [Rule.covers, hstart] at hcovers
    exact ⟨rule, hrule, start, hstart, hcovers⟩
  · have halike := RuleSet.alike_of_parse he h1 h2
    exact ⟨halike, fun hsuper name1 name2 hname => RuleSet.isApplication_congr halike hsuper hname⟩

/-- A name in capitals is no application name for a start in small letters, and the start tells. A
package of a capital letter that has two characters in small letters is the same package. -/
theorem starts_of_names_see_the_case_of_a_dotted_capital :
    (∃ rule ∈ [ruleOf "com.İ.**"], ∃ start, rule.kind = .superPackage start ∧
      Text.startsWith start "com.İ.A" ≠ Text.startsWith start "com.i\u0307.A") ∧
    ∃ rules1 rules2, RuleSet.parse ["com.İ.*", "B"] = .ok rules1 ∧
      RuleSet.parse ["COM.i\u0307.*", "b"] = .ok rules2 ∧
      rules1.isApplication "com.i\u0307.A" = rules2.isApplication "Com.İ.a" := by
  obtain ⟨hstart, hlists⟩ := only_starts_of_names_see_letter_case
  refine ⟨hstart ⟨[ruleOf "com.İ.**"]⟩ _ _ (by decide) (by decide), _, _, rfl, rfl, ?_⟩
  exact (hlists ["com.İ.*", "B"] ["COM.i\u0307.*", "b"] _ _ (by decide) rfl rfl).2
    (by decide) _ _ (by decide)

end AppBoundary
