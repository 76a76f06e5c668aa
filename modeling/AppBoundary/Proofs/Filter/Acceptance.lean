-- Which lists of entries make a filter. Entries without metacharacters do as long
-- as they are not too long. An entry that opens a class makes none where nothing
-- behind it closes the class.
import AppBoundary.Proofs.Filter.Reading
import AppBoundary.Proofs.Filter.Size
import AppBoundary.Proofs.Regex.Classes

namespace AppBoundary.Filter

open Regex (ReadState)
open Regex.ReadState (Reaches)

/-! ## Open classes -/

/-- An entry opens a class, behind nothing but plain text, and the list closes none from there on. -/
inductive LeavesClassOpen : (entries : List String) → Prop
  | intro {earlier later : List String} {entry : String} {before after : List Char} :
      (∀ other ∈ earlier, Plain other.toList) → entry.toList = before ++ '[' :: after →
      Plain before → ']' ∉ after → (∀ other ∈ later, ']' ∉ other.toList) →
      LeavesClassOpen (earlier ++ entry :: later)

theorem LeavesClassOpen.ne_nil {entries : List String} (h : LeavesClassOpen entries) :
    entries ≠ [] := by
  cases h
  simp

/-! ## The text behind an opening bracket -/

/-- Only dots, stars and backslashes come to the characters of an entry. -/
theorem not_mem_expandWildcards {afterStar : Bool} {entry : List Char} {c : Char}
    (hc : c ∉ ['\\', '.', '*']) (h : c ∉ entry) : c ∉ expandWildcards afterStar entry := by
  induction entry generalizing afterStar with
  | nil => simp [expandWildcards]
  | cons first rest ih =>
    simp only [List.mem_cons, List.not_mem_nil, or_false, not_or] at hc
    obtain ⟨hfirst, hrest⟩ := List.ne_and_not_mem_of_not_mem_cons h
    by_cases hdot : first = '.'
    · subst hdot
      simp [expandWildcards, hc, ih hrest]
    by_cases hstar : first = '*'
    · subst hstar
      cases afterStar <;> simp [expandWildcards, hc, ih hrest]
    · simp [expandWildcards_character hdot hstar, hfirst, ih hrest]

theorem closing_not_mem_expandWildcards {afterStar : Bool} {entry : List Char} (h : ']' ∉ entry) :
    ']' ∉ expandWildcards afterStar entry :=
  not_mem_expandWildcards (by decide) h

theorem expandWildcards_append {afterStar : Bool} {c : Char} (hdot : c ≠ '.') (hstar : c ≠ '*')
    (before after : List Char) :
    expandWildcards afterStar (before ++ c :: after) =
      expandWildcards afterStar before ++ c :: expandWildcards false after := by
  induction before generalizing afterStar with
  | nil => exact expandWildcards_character hdot hstar afterStar after
  | cons first rest ih =>
    by_cases hfirst : first = '.'
    · subst hfirst
      simp [expandWildcards, ih]
    by_cases hrun : first = '*'
    · subst hrun
      cases afterStar <;> simp [expandWildcards, ih]
    · simp [expandWildcards_character hfirst hrun, ih]

theorem closing_not_mem_filterBranch {entry : String} (h : ']' ∉ entry.toList) :
    ']' ∉ (filterBranch entry).toList := by
  simp [filterBranch, closing_not_mem_expandWildcards h]

theorem joined_singleton (entry : String) : joined [entry] = filterBranch entry := by
  simp [joined]

theorem toList_joined_cons {entry : String} {others : List String} (hothers : others ≠ []) :
    (joined (entry :: others)).toList =
      (filterBranch entry).toList ++ '|' :: (joined others).toList := by
  cases others with
  | nil => exact absurd rfl hothers
  | cons second others => simp [joined]

theorem closing_not_mem_joined {entries : List String}
    (h : ∀ entry ∈ entries, ']' ∉ entry.toList) : ']' ∉ (joined entries).toList := by
  induction entries with
  | nil => simp [joined]
  | cons entry others ih =>
    obtain ⟨hentry, hothers⟩ := List.forall_mem_cons.1 h
    by_cases hnil : others = []
    · rw [hnil, joined_singleton]
      exact closing_not_mem_filterBranch hentry
    · simp [toList_joined_cons hnil, closing_not_mem_filterBranch hentry, ih hothers]

/-- What stands behind the branch of the first entry closes no class that the others do not. -/
theorem toList_joined_eq (entry : String) (others : List String) :
    ∃ behind, (joined (entry :: others)).toList = (filterBranch entry).toList ++ behind ∧
      ((∀ other ∈ others, ']' ∉ other.toList) → ']' ∉ behind) := by
  by_cases hnil : others = []
  · refine ⟨[], ?_, by simp⟩
    rw [hnil, joined_singleton, List.append_nil]
  · exact ⟨_, toList_joined_cons hnil, fun h => by simp [closing_not_mem_joined h]⟩

/-! ## Refusal -/

/-- The reader comes to a bracket that opens a class and finds none behind it that closes it. -/
theorem reaches_open_class {entries : List String} (h : LeavesClassOpen entries)
    {state : ReadState} (hblanks : state.ignoreBlanks = false)
    (hrest : state.rest = (joined entries).toList) :
    ∃ last behind, Reaches state last ∧ last.ignoreBlanks = false ∧ last.rest = '[' :: behind ∧
      ']' ∉ behind := by
  obtain @⟨earlier, later, entry, before, after, hearlier, hentry, hbefore, hafter, hlater⟩ := h
  -- The entries in front are read whole, so the induction is on them.
  induction earlier generalizing state with
  | nil =>
    obtain ⟨behind, hjoined, hbehind⟩ := toList_joined_eq entry later
    let inside := '[' :: (expandWildcards false after ++ ')' :: behind)
    have hopen : state.rest = '(' :: '?' :: ':' :: (expandWildcards false before ++ inside) := by
      rw [hrest, List.nil_append, hjoined, filterBranch, hentry]
      simp [expandWildcards_append, inside]
    let inner := state.enter (.flags []) false (expandWildcards false before ++ inside)
    have hgroup : Reaches state inner := Regex.ReadState.reaches_group hblanks hopen
    have hplain : Reaches inner (pushAll inner (treesOf false before) inside) :=
      reaches_entry hbefore (by simp [inside]) rfl rfl
    refine ⟨_, _, hgroup.trans hplain, rfl, rfl, ?_⟩
    simp [closing_not_mem_expandWildcards hafter, hbehind hlater]
  | cons first earlier ih =>
    obtain ⟨hfirst, hothers⟩ := List.forall_mem_cons.1 hearlier
    let behind := (joined (earlier ++ entry :: later)).toList
    let turned := state.push (groupOf first) ('|' :: behind)
    have hturns : Reaches state turned := by
      refine reaches_branch hfirst hblanks ?_
      rw [hrest, List.cons_append, toList_joined_cons (by simp)]
    let next : ReadState := { turned with
      rest := behind
      level := ⟨Regex.concatOf turned.level.parts.reverse :: turned.level.branches, []⟩ }
    have hbar : Reaches turned next := Regex.ReadState.reaches_bar hblanks rfl
    have hnext : next.ignoreBlanks = false := hblanks
    obtain ⟨last, rest, hmore, hlast⟩ := ih hnext hothers rfl
    exact ⟨last, rest, hturns.trans (hbar.trans hmore), hlast⟩

theorem parse?_of_leavesClassOpen {entries : List String} (h : LeavesClassOpen entries) :
    Regex.parse? (joined entries).toList = none := by
  let text := (joined entries).toList
  have hblanks : (ReadState.start text).ignoreBlanks = false := rfl
  obtain ⟨last, behind, hturns, hlast, hrest, hclosing⟩ := reaches_open_class h hblanks rfl
  obtain ⟨m, -, hrun⟩ := Regex.ReadState.run_of_reaches hturns (Nat.lt_succ_self text.length)
  have hstep : last.step '[' behind = none := by
    simp [ReadState.step, Regex.readClass_eq_none hclosing]
  have hnone : ReadState.run m last = none := by
    cases m with
    | zero => rfl
    | succ m => simp only [ReadState.run, hlast, Regex.skip_false, hrest, hstep]
  rw [Regex.parse?, Regex.Tree.read?, hrun, hnone]
  rfl

/-- A class that stays open makes the whole list fail, whatever the limit admits. -/
theorem ofEntries_of_leavesClassOpen {entries : List String} (h : LeavesClassOpen entries)
    (limit : Regex.Limit) : ofEntries entries limit = .error (.invalidPattern (joined entries)) := by
  rw [ofEntries_of_ne_nil h.ne_nil, Regex.read?, parse?_of_leavesClassOpen h, ite_self]

/-! ## Acceptance -/

/-- Entries without metacharacters are within the limit by the estimate, unless they are all single
characters or very long. -/
theorem estimatedLimit_of_total_le {entries : List String}
    (hplain : ∀ entry ∈ entries, Plain entry.toList) (hmany : ∃ entry ∈ entries, entry.length ≠ 1)
    (hlength : total (fun entry => entry.length + 1) entries ≤ ampleLength) :
    Regex.estimatedLimit (joined entries).toList = true := by
  have hne : entries ≠ [] := by
    obtain ⟨entry, hmem, -⟩ := hmany
    exact List.ne_nil_of_mem hmem
  rw [Regex.estimatedLimit, parse?_of_plain hne hplain, Option.any_some]
  exact fits_of_total_le hmany hlength

theorem ofEntries_of_plain_of_total_le {entries : List String}
    (hplain : ∀ entry ∈ entries, Plain entry.toList) (hmany : ∃ entry ∈ entries, entry.length ≠ 1)
    (hlength : total (fun entry => entry.length + 1) entries ≤ ampleLength) :
    ofEntries entries = .ok ⟨joined entries, Regex.choice (entries.map expressionOf)⟩ := by
  have hne : entries ≠ [] := by
    obtain ⟨entry, hmem, -⟩ := hmany
    exact List.ne_nil_of_mem hmem
  rw [ofEntries_of_plain hne hplain, if_pos (estimatedLimit_of_total_le hplain hmany hlength)]

end AppBoundary.Filter
