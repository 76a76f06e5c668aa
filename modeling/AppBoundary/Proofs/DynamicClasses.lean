-- Files of dynamically loaded classes. Names that stand on lines of their own are
-- read as they were written, whatever blank lines stand among them and however the
-- lines end, and the names read are shared out between the two sides of a boundary.
import AppBoundary.DynamicClasses
import AppBoundary.Proofs.Text.Lines
import Mathlib.Data.List.Basic

namespace AppBoundary.DynamicClasses

open Text (FitsLine lineEnds lines)

/-! ## Files of names -/

/-- A file lists names in their order: each stands on a line of its own, blank lines stand wherever
they like, and the line of the last name may lack its end. -/
inductive Lists : (names : List String) → (content : String) → Prop
  | nil : Lists [] ""
  | blank {ending rest : String} {names : List String} :
      ending ∈ lineEnds → Lists names rest → Lists names (ending ++ rest)
  | line {name ending rest : String} {names : List String} :
      ending ∈ lineEnds → Lists names rest → Lists (name :: names) (name ++ ending ++ rest)
  | last (name : String) : Lists [name] name

variable {names : List String} {content name : String}

theorem names_parse (content : String) :
    (parse content).names = (lines content).filter (!·.isEmpty) := rfl

theorem filter_cons_of_ne_empty (h : name ≠ "") :
    (name :: names).filter (!·.isEmpty) = name :: names.filter (!·.isEmpty) :=
  List.filter_cons_of_pos (by simpa [String.isEmpty_iff] using h)

theorem fitsLine_empty : FitsLine "" :=
  ⟨by decide, by decide⟩

/-- Names that fit on lines are read from a file that lists them. -/
theorem parse_of_lists (h : Lists names content)
    (hnames : ∀ name ∈ names, name ≠ "" ∧ FitsLine name) : (parse content).names = names := by
  rw [names_parse]
  induction h with
  | nil => rfl
  | @blank ending rest names hending _ ih =>
    have hline := Text.lines_append_end fitsLine_empty hending rest
    rw [String.empty_append] at hline
    rw [hline]
    exact ih hnames
  | @line name ending rest names hending _ ih =>
    obtain ⟨⟨hne, hfits⟩, hrest⟩ := List.forall_mem_cons.1 hnames
    rw [Text.lines_append_end hfits hending, filter_cons_of_ne_empty hne, ih hrest]
  | last name =>
    obtain ⟨⟨hne, hfits⟩, -⟩ := List.forall_mem_cons.1 hnames
    rw [Text.lines_of_no_lineFeed hfits.noLineFeed, if_neg hne, filter_cons_of_ne_empty hne]
    rfl

/-- Every file lists the names that are read from it. -/
theorem lists_parse (content : String) : Lists (parse content).names content := by
  rw [names_parse]
  have hlines := Text.hasLines_lines content
  generalize lines content = all at hlines
  induction hlines with
  | nil => exact .nil
  | @cons line ending rest lines hending _ _ ih =>
    by_cases hempty : line = ""
    · subst hempty
      rw [String.empty_append]
      exact .blank hending ih
    · rw [filter_cons_of_ne_empty hempty]
      exact .line hending ih
  | @last line hne _ =>
    rw [filter_cons_of_ne_empty hne]
    exact .last line

theorem ne_empty_of_mem_parse (h : name ∈ (parse content).names) :
    name ≠ "" ∧ '\n' ∉ name.toList := by
  rw [names_parse, List.mem_filter, Bool.not_eq_true', ← Bool.not_eq_true, String.isEmpty_iff] at h
  exact ⟨h.2, (Text.hasLines_lines content).not_mem name h.1⟩

/-! ## The two sides -/

theorem partition_eq (classes : DynamicClasses) (rules : RuleSet) :
    rules.partition classes.names = (classes.application rules, classes.library rules) :=
  List.partition_eq_filter_filter

/-- A name lies on one side as often as it is listed, and not at all on the other. -/
theorem count_sides (classes : DynamicClasses) (rules : RuleSet) (name : String) :
    (classes.application rules).count name =
        (if rules.isApplication name then classes.names.count name else 0) ∧
      (classes.library rules).count name =
        if rules.isApplication name then 0 else classes.names.count name := by
  rw [application, library]
  by_cases happlication : rules.isApplication name = true
  · have hlibrary : ¬ rules.isLibrary name = true := by simp [RuleSet.isLibrary, happlication]
    rw [if_pos happlication, if_pos happlication, List.count_filter happlication,
      List.count_eq_zero]
    exact ⟨rfl, fun hmem => hlibrary (List.of_mem_filter hmem)⟩
  · have hlibrary : rules.isLibrary name = true := by simp [RuleSet.isLibrary, happlication]
    rw [if_neg happlication, if_neg happlication, List.count_filter hlibrary, List.count_eq_zero]
    exact ⟨fun hmem => happlication (List.of_mem_filter hmem), rfl⟩

/-- Every name lies on one of the two sides. -/
theorem length_application_add_length_library (classes : DynamicClasses) (rules : RuleSet) :
    (classes.application rules).length + (classes.library rules).length = classes.size := by
  have hlibrary : rules.isLibrary = fun name => decide ¬ rules.isApplication name = true := by
    funext name
    simp [RuleSet.isLibrary]
  unfold application library size
  rw [← List.countP_eq_length_filter, ← List.countP_eq_length_filter, hlibrary]
  exact (List.length_eq_countP_add_countP rules.isApplication).symm

/-! ## The law -/

/-- Names that fit on lines are read from a file exactly as they stand in it, and any file lists the
names that are read from it. The sides of a boundary are the two parts of a partition of the names:
both keep the order of the file, and each mention of a name is on exactly one of them. -/
theorem names_are_read_as_they_stand_and_shared_out :
    (∀ names content, (∀ name ∈ names, name ≠ "" ∧ FitsLine name) → Lists names content →
      (parse content).names = names) ∧
    (∀ content, Lists (parse content).names content ∧
      ∀ name ∈ (parse content).names, name ≠ "" ∧ '\n' ∉ name.toList) ∧
    ∀ (classes : DynamicClasses) (rules : RuleSet),
      rules.partition classes.names = (classes.application rules, classes.library rules) ∧
      (classes.application rules).Sublist classes.names ∧
      (classes.library rules).Sublist classes.names ∧
      (∀ name, (classes.application rules).count name =
            (if rules.isApplication name then classes.names.count name else 0) ∧
          (classes.library rules).count name =
            if rules.isApplication name then 0 else classes.names.count name) ∧
      (classes.application rules).length + (classes.library rules).length = classes.size := by
  refine ⟨fun names content hnames hlists => parse_of_lists hlists hnames,
    fun content => ⟨lists_parse content, fun name => ne_empty_of_mem_parse⟩, fun classes rules => ?_⟩
  exact ⟨partition_eq classes rules, List.filter_sublist, List.filter_sublist,
    count_sides classes rules, length_application_add_length_library classes rules⟩

/-- A name between spaces, twice, and one with a carriage return in it are read from a file with ends
of both kinds, blank lines, and no end behind the last name. -/
theorem four_names_are_read_as_they_stand :
    (parse "\r\n a \r\nb\rc\n\n a \r\nd").names = [" a ", "b\rc", " a ", "d"] := by
  obtain ⟨hread, -⟩ := names_are_read_as_they_stand_and_shared_out
  have hnames : ∀ name ∈ [" a ", "b\rc", " a ", "d"], name ≠ "" ∧ FitsLine name := by
    have hplain : ∀ name ∈ [" a ", "b\rc", " a ", "d"],
        name ≠ "" ∧ '\n' ∉ name.toList ∧ name.toList.getLast? ≠ some '\r' := by decide
    intro name hmem
    obtain ⟨hne, hfeed, hreturn⟩ := hplain name hmem
    exact ⟨hne, hfeed, hreturn⟩
  have hfeed : "\n" ∈ lineEnds := by decide
  have hreturn : "\r\n" ∈ lineEnds := by decide
  exact hread _ _ hnames (.blank hreturn (.line hreturn (.line hfeed (.blank hfeed
    (.line hreturn (.last "d"))))))

end AppBoundary.DynamicClasses
