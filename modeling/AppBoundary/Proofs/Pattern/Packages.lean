-- What a list of patterns means: which lists are accepted, and which classes
-- they put into the application, said of packages and not of starts and ends
-- of texts.
import AppBoundary.Classifier
import AppBoundary.Proofs.ClassName
import AppBoundary.Proofs.Sequencing
import AppBoundary.Proofs.Text.Caseless

namespace AppBoundary

open Text (lower)

/-! ## The meaning of an entry -/

/-- An entry covers a class of this name. -/
inductive Covers : (entry name : String) → Prop
  /-- The classes without a package. -/
  | defaultPackage {name} : LiesIn name "" → Covers "**" name
  /-- The classes of a package and of every package nested in it. -/
  | superPackage {outer name package} : outer ≠ "" → LiesIn name package →
      (package = outer ∨ ∃ rest, package = outer ++ "." ++ rest) → Covers (outer ++ ".**") name
  /-- The classes whose name begins with a dot. -/
  | leadingDot (rest) : Covers ".**" ("." ++ rest)
  /-- The classes of one package, in any case. -/
  | package {expected name package} : LiesIn name package → lower package = lower expected →
      Covers (expected ++ ".*") name
  /-- One class, in any case. -/
  | exactClass {entry name} : entry ≠ "**" → (∀ outer, entry ≠ outer ++ ".**") →
      (∀ expected, entry ≠ expected ++ ".*") → lower name = lower entry → Covers entry name

/-! ## The shape of an entry -/

theorem superPackage_ne_default (outer : String) : outer ++ ".**" ≠ "**" := by
  intro h
  have := congrArg (fun text => text.toList.length) h
  simp at this

theorem package_ne_default (expected : String) : expected ++ ".*" ≠ "**" := by
  intro h
  have := congrArg (fun text => text.toList.reverse) h
  simp at this

theorem package_ne_superPackage (expected outer : String) :
    expected ++ ".*" ≠ outer ++ ".**" := by
  intro h
  have := congrArg (fun text => text.toList.reverse) h
  simp at this

namespace RuleKind

theorem ofEntry_default : ofEntry "**" = .defaultPackage := by
  simp [ofEntry]

theorem ofEntry_superPackage (outer : String) :
    ofEntry (outer ++ ".**") = .superPackage (outer ++ ".") := by
  rw [ofEntry, if_neg (superPackage_ne_default outer), Text.beforeEnd?_append]

theorem beforeEnd?_eq_none {ending entry : String} (h : ∀ rest, entry ≠ rest ++ ending) :
    Text.beforeEnd? ending entry = none := by
  cases hb : Text.beforeEnd? ending entry with
  | none => rfl
  | some rest => exact absurd (Text.eq_of_beforeEnd?_eq_some hb) (h rest)

theorem ofEntry_package (expected : String) : ofEntry (expected ++ ".*") = .package expected := by
  rw [ofEntry, if_neg (package_ne_default expected),
    beforeEnd?_eq_none (package_ne_superPackage expected), Text.beforeEnd?_append]

theorem ofEntry_exactClass {entry : String} (h1 : entry ≠ "**")
    (h2 : ∀ outer, entry ≠ outer ++ ".**") (h3 : ∀ expected, entry ≠ expected ++ ".*") :
    ofEntry entry = .exactClass := by
  rw [ofEntry, if_neg h1, beforeEnd?_eq_none h2, beforeEnd?_eq_none h3]

/-- Every entry has one of the four shapes. -/
theorem shape (entry : String) :
    entry = "**" ∨ (∃ outer, entry = outer ++ ".**") ∨ (∃ expected, entry = expected ++ ".*") ∨
      (entry ≠ "**" ∧ (∀ outer, entry ≠ outer ++ ".**") ∧ ∀ expected, entry ≠ expected ++ ".*") := by
  by_cases h1 : entry = "**"
  · exact Or.inl h1
  by_cases h2 : ∃ outer, entry = outer ++ ".**"
  · exact Or.inr (Or.inl h2)
  by_cases h3 : ∃ expected, entry = expected ++ ".*"
  · exact Or.inr (Or.inr (Or.inl h3))
  · exact Or.inr (Or.inr (Or.inr ⟨h1, not_exists.1 h2, not_exists.1 h3⟩))

end RuleKind

/-- The rule of an entry that is not blank. -/
def ruleOf (entry : String) : Rule :=
  ⟨.ofEntry entry, entry⟩

theorem startsWith_iff {start text : String} :
    Text.startsWith start text = true ↔ ∃ rest, text = start ++ rest := by
  rw [Text.startsWith, List.isPrefixOf_iff_prefix]
  constructor
  · rintro ⟨rest, h⟩
    exact ⟨String.ofList rest, String.toList_inj.1 (by simp [← h])⟩
  · rintro ⟨rest, rfl⟩
    simp

/-! ## One rule -/

theorem covers_of_meaning {entry name : String} (h : Covers entry name) :
    (ruleOf entry).covers name (packageOf name) = true := by
  cases h with
  | defaultPackage hlies =>
    simp [ruleOf, RuleKind.ofEntry_default, Rule.covers, liesIn_iff.1 hlies]
  | superPackage hne hlies hpackage =>
    simp only [ruleOf, RuleKind.ofEntry_superPackage, Rule.covers, startsWith_iff]
    exact (begins_iff_liesIn hne).2 ⟨_, hlies, hpackage⟩
  | leadingDot rest =>
    have hkind : RuleKind.ofEntry ".**" = .superPackage "." := RuleKind.ofEntry_superPackage ""
    simp only [ruleOf, hkind, Rule.covers, startsWith_iff]
    exact ⟨rest, rfl⟩
  | package hlies hlower =>
    simp only [ruleOf, RuleKind.ofEntry_package, Rule.covers, Text.eqIgnoreCase_iff,
      liesIn_iff.1 hlies]
    exact hlower.symm
  | exactClass h1 h2 h3 hlower =>
    simp only [ruleOf, RuleKind.ofEntry_exactClass h1 h2 h3, Rule.covers, Text.eqIgnoreCase_iff]
    exact hlower.symm

theorem meaning_of_covers {entry name : String}
    (h : (ruleOf entry).covers name (packageOf name) = true) : Covers entry name := by
  have hlies : LiesIn name (packageOf name) := liesIn_iff.2 rfl
  rcases RuleKind.shape entry with rfl | ⟨outer, rfl⟩ | ⟨expected, rfl⟩ | ⟨h1, h2, h3⟩
  · simp only [ruleOf, RuleKind.ofEntry_default, Rule.covers, String.isEmpty_iff] at h
    exact .defaultPackage (h ▸ hlies)
  · simp only [ruleOf, RuleKind.ofEntry_superPackage, Rule.covers, startsWith_iff] at h
    by_cases hne : outer = ""
    · subst hne
      obtain ⟨rest, rfl⟩ := h
      exact .leadingDot rest
    · obtain ⟨package, hlies, hpackage⟩ := (begins_iff_liesIn hne).1 h
      exact .superPackage hne hlies hpackage
  · simp only [ruleOf, RuleKind.ofEntry_package, Rule.covers, Text.eqIgnoreCase_iff] at h
    exact .package hlies h.symm
  · simp only [ruleOf, RuleKind.ofEntry_exactClass h1 h2 h3, Rule.covers,
      Text.eqIgnoreCase_iff] at h
    exact .exactClass h1 h2 h3 h.symm

theorem covers_iff (entry name : String) :
    (ruleOf entry).covers name (packageOf name) = true ↔ Covers entry name :=
  ⟨meaning_of_covers, covers_of_meaning⟩

/-! ## Rule sets -/

namespace RuleSet

theorem mapM_parse_eq_ok_iff {entries : List String} {rules : List Rule} :
    entries.mapM Rule.parse = .ok rules ↔
      (∀ entry ∈ entries, Text.isBlank entry = false) ∧ rules = entries.map ruleOf := by
  rw [mapM_eq_ok_iff]
  induction entries generalizing rules with
  | nil => simp
  | cons entry rest ih =>
    simp only [List.forall₂_cons_left_iff, ih]
    simp only [Rule.parse_eq_ok_iff, List.forall_mem_cons, List.map_cons]
    constructor
    · rintro ⟨rule, others, ⟨hblank, rfl⟩, ⟨hrest, rfl⟩, rfl⟩
      exact ⟨⟨hblank, hrest⟩, rfl⟩
    · rintro ⟨⟨hblank, hrest⟩, rfl⟩
      exact ⟨_, _, ⟨hblank, rfl⟩, ⟨hrest, rfl⟩, rfl⟩

/-- A list of entries is accepted when it holds one and none of them is blank, and each entry
becomes the rule in its place. -/
theorem parse_eq_ok_iff {entries : List String} {rules : RuleSet} :
    parse entries = .ok rules ↔
      (entries ≠ [] ∧ ∀ entry ∈ entries, Text.isBlank entry = false) ∧
        rules = ⟨entries.map ruleOf⟩ := by
  unfold parse
  cases entries with
  | nil => simp
  | cons entry rest =>
    rw [if_neg (by simp), Except.map_eq_ok_iff]
    simp only [mapM_parse_eq_ok_iff, ne_eq, reduceCtorEq, not_false_eq_true, true_and]
    constructor
    · rintro ⟨list, ⟨hblank, rfl⟩, rfl⟩
      exact ⟨hblank, rfl⟩
    · rintro ⟨hblank, rfl⟩
      exact ⟨_, ⟨hblank, rfl⟩, rfl⟩

theorem isApplication_iff {entries : List String} {rules : RuleSet}
    (h : parse entries = .ok rules) (name : String) :
    rules.isApplication name = true ↔ ∃ entry ∈ entries, Covers entry name := by
  obtain ⟨-, rfl⟩ := parse_eq_ok_iff.1 h
  simp only [isApplication, List.any_map, List.any_eq_true, Function.comp_apply, covers_iff]

end RuleSet

theorem isBlank_eq_false_iff {entry : String} :
    Text.isBlank entry = false ↔ ∃ c ∈ entry.toList, Text.isBlankChar c = false := by
  simp [Text.isBlank]

/-! ## The laws -/

open Classical in
/-- A list of patterns is accepted when it holds one and each has a character that is not blank.
A class then belongs to the application when some entry covers it by its package, and a list of
names is cut in two by that decision, in its order and with nothing lost or doubled. -/
theorem patterns_decide_by_package (entries : List String) :
    ((∃ rules, RuleSet.parse entries = .ok rules) ↔
      entries ≠ [] ∧ ∀ entry ∈ entries, ∃ c ∈ entry.toList, Text.isBlankChar c = false) ∧
    ∀ rules, RuleSet.parse entries = .ok rules →
      (∀ name, rules.isApplication name = true ↔ ∃ entry ∈ entries, Covers entry name) ∧
      ∀ names,
        rules.partition names =
          (names.filter fun name => ∃ entry ∈ entries, Covers entry name,
            names.filter fun name => ¬ ∃ entry ∈ entries, Covers entry name) ∧
        ((rules.partition names).1 ++ (rules.partition names).2).Perm names := by
  refine ⟨?_, fun rules h => ?_⟩
  · simp only [RuleSet.parse_eq_ok_iff, isBlank_eq_false_iff, exists_and_left, exists_eq, and_true]
  · have hdecision : rules.isApplication =
        fun name => decide (∃ entry ∈ entries, Covers entry name) := by
      funext name
      rw [Bool.eq_iff_iff, decide_eq_true_iff, RuleSet.isApplication_iff h]
    refine ⟨RuleSet.isApplication_iff h, fun names => ?_⟩
    rw [RuleSet.partition, List.partition_eq_filter_filter]
    refine ⟨?_, List.filter_append_perm _ names⟩
    simp only [hdecision, Function.comp_def, decide_not]

/-- A pattern of a package and its nested ones covers a class two packages further in, and a
pattern of one package covers a class in another case. -/
theorem patterns_decide_two_names :
    ∃ rules, RuleSet.parse ["a.b.**", "Com.*"] = .ok rules ∧
      rules.isApplication "a.b.c.d.E" = true ∧ rules.isApplication "com.F" = true := by
  obtain ⟨haccepted, hdecision⟩ := patterns_decide_by_package ["a.b.**", "Com.*"]
  have hblank : ∀ entry ∈ ["a.b.**", "Com.*"], ∃ c ∈ entry.toList, Text.isBlankChar c = false := by
    rw [List.forall_mem_cons, List.forall_mem_singleton]
    exact ⟨⟨'a', by simp, by decide⟩, 'C', by simp, by decide⟩
  obtain ⟨rules, h⟩ := haccepted.2 ⟨by simp, hblank⟩
  have hnested : Covers ("a.b" ++ ".**") ("a.b.c.d" ++ "." ++ "E") :=
    .superPackage (by simp) (.nested (by decide)) (Or.inr ⟨"c.d", by simp⟩)
  have hcase : Covers ("Com" ++ ".*") ("com" ++ "." ++ "F") :=
    .package (.nested (by decide)) (by decide)
  refine ⟨rules, h, ?_, ?_⟩
  · exact ((hdecision rules h).1 _).2 ⟨"a.b.**", by simp, by simpa using hnested⟩
  · exact ((hdecision rules h).1 _).2 ⟨"Com.*", by simp, by simpa using hcase⟩

end AppBoundary
