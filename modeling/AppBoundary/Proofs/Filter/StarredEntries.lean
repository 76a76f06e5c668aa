-- Entries that end in a star. Within a line the last star takes all that is left
-- of the text, whichever entry matches and however its other stars are taken, so
-- no name is counted twice and the census is a number of names.
import AppBoundary.Proofs.Census
import AppBoundary.Proofs.Filter.Reading
import AppBoundary.Proofs.Regex.Preference

namespace AppBoundary.Filter

open Regex (choice sequence EndTable)

variable {text : List Char}

/-! ## The star at the end -/

/-- The table of a dot goes from each place of a line to the next one. -/
theorem endsFrom_dot (htext : '\n' ∉ text) (around : Regex → Bool → EndTable) {place : Nat}
    (hplace : place < text.length) :
    (Regex.endTable text.toArray around .dot).endsFrom place = [place + 1] := by
  have hchar : text[place] ≠ '\n' := fun h => htext (h ▸ List.getElem_mem hplace)
  rw [Regex.dot, Regex.endTable, List.size_toArray, EndTable.endsFrom_build _ (by omega)]
  simp [hplace, contains_dot_iff.2 hchar]

theorem endsFrom_dot_last (around : Regex → Bool → EndTable) :
    (Regex.endTable text.toArray around .dot).endsFrom text.length = [] := by
  rw [Regex.dot, Regex.endTable, List.size_toArray, EndTable.endsFrom_build _ (Nat.le_refl _)]
  simp

theorem runsOut_starPart (htext : '\n' ∉ text) : starPart.RunsOut text := by
  intro around
  have hstars := EndTable.runsOut_anyNumber (fun _ => endsFrom_dot htext around)
    (endsFrom_dot_last around)
  exact hstars.cat _

/-- The star at the end of an entry is the last of its parts, or part of the star that is. -/
theorem partsOf_append_star (front : List Char) :
    (∃ parts, partsOf false (front ++ ['*']) = parts ++ [starPart]) ∧
      ∃ parts, starPart :: partsOf true (front ++ ['*']) = parts ++ [starPart] := by
  induction front with
  | nil => exact ⟨⟨[], rfl⟩, [], rfl⟩
  | cons c front ih =>
    obtain ⟨⟨parts, hparts⟩, starred, hstarred⟩ := ih
    rw [List.cons_append, partsOf, partsOf]
    by_cases hc : c = '*'
    · simp only [hc, if_true, Bool.false_eq_true, if_false]
      exact ⟨⟨starred, hstarred⟩, starred, hstarred⟩
    · simp only [hc, if_false, hparts]
      exact ⟨⟨.char c :: parts, rfl⟩, starPart :: .char c :: parts, rfl⟩

theorem runsOut_expressionOf (htext : '\n' ∉ text) {entry : String}
    (hstar : Text.endsWith "*" entry = true) : (expressionOf entry).RunsOut text := by
  rw [Text.endsWith, List.isSuffixOf_iff_suffix] at hstar
  obtain ⟨front, hfront⟩ := hstar
  obtain ⟨⟨parts, hparts⟩, -⟩ := partsOf_append_star front
  have hentry : entry.toList = front ++ ['*'] := hfront.symm
  rw [expressionOf, hentry, hparts]
  exact Regex.runsOut_sequence parts (runsOut_starPart htext)

/-! ## Counting -/

variable {limit : Regex.Limit}

theorem countMatches_eq_of_starred {entries : List String} {filter : Filter}
    (hplain : ∀ entry ∈ entries, Plain entry.toList)
    (hstar : ∀ entry ∈ entries, Text.endsWith "*" entry = true)
    (h : ofEntries entries limit = .ok filter) {text : String} (htext : '\n' ∉ text.toList) :
    filter.countMatches text = if filter.isMatch text then 1 else 0 := by
  have hne : entries.map expressionOf ≠ [] := by simpa using ne_nil_of_ofEntries h
  have hbranches : ∀ branch ∈ entries.map expressionOf, branch.RunsOut text.toList :=
    List.forall_mem_map.2 fun entry hentry => runsOut_expressionOf htext (hstar entry hentry)
  rw [countMatches, isMatch, regex_of_ofEntries hplain h]
  exact Regex.countMatches_eq_of_runsOut (loopsConsume_choice_expressions entries)
    (Regex.runsOut_choice hne hbranches)

/-! ## The law -/

/-- A filter of entries that end in stars and hold no metacharacter counts every line once or not at
all. So the census of an index without line feeds in its names is the number of classes whose names
match, and the number of methods whose owners' names do. -/
theorem starred_entries_count_a_name_once {entries : List String} {filter : Filter}
    (hplain : ∀ entry ∈ entries, ∀ c ∈ entry.toList, c ∉ metacharacters)
    (hstar : ∀ entry ∈ entries, Text.endsWith "*" entry = true)
    (hfilter : ofEntries entries limit = .ok filter) :
    (∀ text : String, '\n' ∉ text.toList →
      filter.countMatches text = if filter.isMatch text then 1 else 0) ∧
    ∀ index : ClassIndex,
      ((∀ descriptor ∈ index.classes, '\n' ∉ (typeName descriptor).toList) →
        filter.countClasses index =
            index.classes.countP (fun descriptor => filter.isMatch (typeName descriptor)) ∧
          filter.countClasses index ≤ index.classes.length) ∧
      ((∀ method ∈ index.methods, '\n' ∉ (typeName (ownerOfMethod method)).toList) →
        filter.countMethods index =
            index.methods.countP (fun method => filter.isMatch (typeName (ownerOfMethod method))) ∧
          filter.countMethods index ≤ index.methods.length) := by
  have honce : ∀ text : String, '\n' ∉ text.toList →
      filter.countMatches text = if filter.isMatch text then 1 else 0 :=
    fun _ => countMatches_eq_of_starred hplain hstar hfilter
  refine ⟨honce, fun index => ⟨fun hclasses => ?_, fun hmethods => ?_⟩⟩
  · have hcount := total_eq_countP fun descriptor hd => honce _ (hclasses descriptor hd)
    rw [countClasses_eq_total]
    exact ⟨hcount, Nat.le_trans (Nat.le_of_eq hcount) List.countP_le_length⟩
  · have hcount := total_eq_countP fun method hm => honce _ (hmethods method hm)
    rw [countMethods_eq_total]
    exact ⟨hcount, Nat.le_trans (Nat.le_of_eq hcount) List.countP_le_length⟩

/-- Two starts of an entry in one name are one match, and the empty match behind it is none. -/
theorem a_name_with_two_starts_is_counted_once :
    ∃ filter, ofEntries ["a.*", "b**"] = .ok filter ∧ filter.countMatches "a.ba.b" = 1 ∧
      filter.countClasses ⟨["La/ba/b;", "Lc;"], ["La/ba/b;->run()V"]⟩ = 1 ∧
      filter.countMethods ⟨["La/ba/b;", "Lc;"], ["La/ba/b;->run()V"]⟩ = 1 := by
  obtain ⟨filter, hfilter⟩ : ∃ filter, ofEntries ["a.*", "b**"] = .ok filter := ⟨_, rfl⟩
  have hplain : ∀ entry ∈ ["a.*", "b**"], ∀ c ∈ entry.toList, c ∉ metacharacters := by
    simp [metacharacters]
  obtain ⟨honce, hcensus⟩ := starred_entries_count_a_name_once hplain (by decide) hfilter
  obtain ⟨hclasses, hmethods⟩ := hcensus ⟨["La/ba/b;", "Lc;"], ["La/ba/b;->run()V"]⟩
  have hstarts : filter.isMatch "a.ba.b" = true ∧ filter.isMatch "c" = false := by
    cases hfilter
    decide +kernel
  have hnames : typeName "La/ba/b;" = "a.ba.b" ∧ typeName "Lc;" = "c" ∧
      typeName (ownerOfMethod "La/ba/b;->run()V") = "a.ba.b" := by decide
  refine ⟨filter, hfilter, ?_, ?_, ?_⟩
  · rw [honce _ (by decide), if_pos hstarts.1]
  · rw [(hclasses (by decide)).1]
    simp [hnames, hstarts]
  · rw [(hmethods (by decide)).1]
    simp [hnames, hstarts]

end AppBoundary.Filter
