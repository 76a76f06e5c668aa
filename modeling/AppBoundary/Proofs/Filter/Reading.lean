-- How the text of a filter is read, and what its search finds. Entries without
-- metacharacters are read back as what they stand for, each of them in a group
-- of its own, so no entry can change the meaning of another.
import AppBoundary.Filter
import AppBoundary.Proofs.Filter.Glob
import AppBoundary.Proofs.Regex.Tables
import AppBoundary.Proofs.Sequencing

namespace AppBoundary

/-! ## Turns of the reader -/

namespace Regex.ReadState

/-- The reader comes from one state to another, where blanks count. -/
inductive Reaches : ReadState → ReadState → Prop
  | refl (state) : Reaches state state
  | turn {state next last : ReadState} {c rest} : state.ignoreBlanks = false →
      state.rest = c :: rest → state.step c rest = some next →
      next.rest.length ≤ rest.length → Reaches next last → Reaches state last

theorem Reaches.trans {first second third : ReadState} (h1 : Reaches first second)
    (h2 : Reaches second third) : Reaches first third := by
  induction h1 with
  | refl => exact h2
  | turn hblanks hrest hstep hlength _ ih => exact .turn hblanks hrest hstep hlength (ih h2)

/-- Turns enough for the rest of the pattern are enough for what is left of it. -/
theorem run_of_reaches {state last : ReadState} (h : Reaches state last) {n : Nat}
    (hn : state.rest.length < n) : ∃ m, last.rest.length < m ∧ run n state = run m last := by
  induction h generalizing n with
  | refl => exact ⟨n, hn, rfl⟩
  | turn hblanks hrest hstep hlength _ ih =>
    obtain ⟨n, rfl⟩ : ∃ k, n = k + 1 := ⟨n - 1, by omega⟩
    rw [hrest, List.length_cons] at hn
    obtain ⟨m, hm, hrun⟩ := ih (show _ < n by omega)
    refine ⟨m, hm, ?_⟩
    rw [← hrun, run, hblanks, skip_false, hrest]
    simp only [hstep]

theorem run_of_reaches_end {state last : ReadState} (h : Reaches state last)
    (hblanks : last.ignoreBlanks = false) (hrest : last.rest = []) (hgroups : last.groups = [])
    {n : Nat} (hn : state.rest.length < n) : run n state = some last.level.tree := by
  obtain ⟨m, hm, hrun⟩ := run_of_reaches h hn
  obtain ⟨m, rfl⟩ : ∃ k, m = k + 1 := ⟨m - 1, by omega⟩
  rw [hrun, run, hblanks, skip_false, hrest]
  simp [hgroups]

section Turns

variable {state : ReadState} {rest : List Char}

/-- One turn at a character, with its outcome given. -/
theorem reaches_step {next : ReadState} {c : Char} (hblanks : state.ignoreBlanks = false)
    (hrest : state.rest = c :: rest) (hstep : state.step c rest = some next)
    (hlength : next.rest.length ≤ rest.length) : Reaches state next :=
  .turn hblanks hrest hstep hlength (.refl next)

theorem reaches_escaped_dot (hblanks : state.ignoreBlanks = false)
    (hrest : state.rest = '\\' :: '.' :: rest) :
    Reaches state (state.push (.literal ⟨'.', false⟩) rest) := by
  have hescape : readEscape false ('.' :: rest) = some (.literal ⟨'.', false⟩, rest) :=
    rfl
  refine reaches_step hblanks hrest ?_ (by simp [push])
  simp [step, hblanks, hescape, Escape.tree]

/-- A dot with a star behind it is one repetition, which prefers more unless a question mark
follows. -/
theorem reaches_dot_star (hblanks : state.ignoreBlanks = false)
    (hrest : state.rest = '.' :: '*' :: rest) (hgreedy : rest.head? ≠ some '?') :
    Reaches state (state.push (.times .dot 0 none true) rest) := by
  have hdot : Reaches state (state.push .dot ('*' :: rest)) :=
    reaches_step hblanks hrest (by simp [step]) (by simp [push])
  have hgreed : readGreed rest = (true, rest) := by
    cases rest with
    | nil => rfl
    | cons c rest =>
      have hc : c ≠ '?' := by simpa using hgreedy
      simp [readGreed, hc]
  have hstar : (state.push .dot ('*' :: rest)).step '*' rest =
      some (state.push (.times .dot 0 none true) rest) := by
    simp [step, hgreed, repeatLast, push]
  exact hdot.trans (reaches_step hblanks rfl hstar (Nat.le_refl _))

theorem reaches_group (hblanks : state.ignoreBlanks = false)
    (hrest : state.rest = '(' :: '?' :: ':' :: rest) :
    Reaches state (state.enter (.flags []) false rest) := by
  refine reaches_step hblanks hrest ?_ (by simp [enter]; omega)
  simp [step, openGroup, hblanks, skip_false, readFlags]

theorem reaches_bar (hblanks : state.ignoreBlanks = false) (hrest : state.rest = '|' :: rest) :
    Reaches state { state with
      rest := rest
      level := ⟨concatOf state.level.parts.reverse :: state.level.branches, []⟩ } :=
  reaches_step hblanks hrest (by simp [step]) (by simp)

end Turns

end Regex.ReadState

namespace Filter

open Regex (Tree ReadState concatOf ofTree ofTrees sequence choice)
open Regex.Tree (depth maxDepth)
open Regex.ReadState (Reaches)

/-! ## Plain entries -/

/-- The characters with a meaning of their own in a regular expression, dots and stars apart. -/
def metacharacters : List Char :=
  ['\\', '+', '?', '(', ')', '|', '[', ']', '{', '}', '^', '$']

/-- The text holds no metacharacter. -/
def Plain (entry : List Char) : Prop :=
  ∀ c ∈ entry, c ∉ metacharacters

/-- The parts that an entry is read as. The flag says that a star came just before. -/
def treesOf (afterStar : Bool) : List Char → List Tree
  | [] => []
  | c :: rest =>
    if c = '*' then
      if afterStar then treesOf true rest else .times .dot 0 none true :: treesOf true rest
    else .literal ⟨c, false⟩ :: treesOf false rest

theorem reaches_literal {state : ReadState} {c : Char} {rest : List Char}
    (hc : c ∉ metacharacters) (hdot : c ≠ '.') (hstar : c ≠ '*')
    (hblanks : state.ignoreBlanks = false) (hrest : state.rest = c :: rest) :
    Reaches state (state.push (.literal ⟨c, false⟩) rest) := by
  refine Regex.ReadState.reaches_step hblanks hrest ?_ (by simp [ReadState.push])
  simp only [metacharacters, List.mem_cons, List.not_mem_nil, or_false, not_or] at hc
  simp [ReadState.step, hc, hdot, hstar]

theorem expandWildcards_character {c : Char} (hdot : c ≠ '.') (hstar : c ≠ '*') (afterStar : Bool)
    (rest : List Char) : expandWildcards afterStar (c :: rest) = c :: expandWildcards false rest := by
  rw [expandWildcards]
  · exact hdot
  · exact hstar

/-- No part of a plain entry begins with a question mark, so no star before it turns round. -/
theorem head?_expandWildcards {afterStar : Bool} {entry behind : List Char} (hplain : Plain entry)
    (hbehind : behind.head? ≠ some '?') :
    (expandWildcards afterStar entry ++ behind).head? ≠ some '?' := by
  induction entry generalizing afterStar with
  | nil => exact hbehind
  | cons c rest ih =>
    obtain ⟨hc, hrest⟩ := List.forall_mem_cons.1 hplain
    by_cases hdot : c = '.'
    · subst hdot
      simp [expandWildcards]
    by_cases hstar : c = '*'
    · subst hstar
      cases afterStar
      · simp [expandWildcards]
      · simpa only [expandWildcards, if_true] using ih hrest
    · have hquestion : c ≠ '?' := fun h => hc (h ▸ by decide)
      simpa [expandWildcards_character hdot hstar] using hquestion

/-! ## Reading an entry -/

/-- The state with more parts, and with another rest. -/
def pushAll (state : ReadState) (parts : List Tree) (rest : List Char) : ReadState :=
  { state with
    rest := rest
    level := ⟨state.level.branches, parts.reverse ++ state.level.parts⟩ }

theorem pushAll_cons (state : ReadState) (part : Tree) (parts : List Tree)
    (middle rest : List Char) :
    pushAll state (part :: parts) rest = pushAll (state.push part middle) parts rest := by
  simp [pushAll, ReadState.push]

/-- The characters of a plain entry become its parts, in the group that is open. -/
theorem reaches_entry {afterStar : Bool} {entry behind : List Char} (hplain : Plain entry)
    (hbehind : behind.head? ≠ some '?') {state : ReadState} (hblanks : state.ignoreBlanks = false)
    (hrest : state.rest = expandWildcards afterStar entry ++ behind) :
    Reaches state (pushAll state (treesOf afterStar entry) behind) := by
  induction entry generalizing afterStar state with
  | nil =>
    obtain rfl : state.rest = behind := hrest
    exact .refl _
  | cons c rest ih =>
    obtain ⟨hc, htail⟩ := List.forall_mem_cons.1 hplain
    by_cases hdot : c = '.'
    · subst hdot
      rw [treesOf, if_neg (by decide), pushAll_cons]
      exact (Regex.ReadState.reaches_escaped_dot hblanks hrest).trans (ih htail hblanks rfl)
    by_cases hstar : c = '*'
    · subst hstar
      cases afterStar
      · rw [treesOf, if_pos rfl, if_neg (by decide), pushAll_cons]
        have hgreedy : (expandWildcards true rest ++ behind).head? ≠ some '?' :=
          head?_expandWildcards htail hbehind
        exact (Regex.ReadState.reaches_dot_star hblanks hrest hgreedy).trans (ih htail hblanks rfl)
      · rw [treesOf, if_pos rfl, if_pos rfl]
        exact ih htail hblanks hrest
    · rw [expandWildcards_character hdot hstar] at hrest
      rw [treesOf, if_neg hstar, pushAll_cons]
      exact (reaches_literal hc hdot hstar hblanks hrest).trans (ih htail hblanks rfl)

/-- The part that an entry is read as: a group of its own. -/
def groupOf (entry : String) : Tree :=
  .group [] (concatOf (treesOf false entry.toList))

theorem reaches_branch {entry : String} {behind : List Char} (hplain : Plain entry.toList)
    {state : ReadState} (hblanks : state.ignoreBlanks = false)
    (hrest : state.rest = (filterBranch entry).toList ++ behind) :
    Reaches state (state.push (groupOf entry) behind) := by
  have hrest : state.rest =
      '(' :: '?' :: ':' :: (expandWildcards false entry.toList ++ ')' :: behind) := by
    simp [hrest, filterBranch]
  let inner := state.enter (.flags []) false (expandWildcards false entry.toList ++ ')' :: behind)
  have hopen : Reaches state inner := Regex.ReadState.reaches_group hblanks hrest
  have hinner : Reaches inner (pushAll inner (treesOf false entry.toList) (')' :: behind)) :=
    reaches_entry hplain (by simp) rfl rfl
  -- The group closes on the level that was open before it.
  have hlength : (state.push (groupOf entry) behind).rest.length ≤ behind.length := Nat.le_refl _
  refine hopen.trans (hinner.trans (Regex.ReadState.reaches_step rfl rfl ?_ hlength))
  simp [ReadState.step, ReadState.closeGroup, inner, pushAll, ReadState.enter, ReadState.push,
    groupOf, Regex.GroupKind.wrap, Regex.Level.tree, hblanks]

/-! ## Reading all entries -/

/-- The tree of a list of branches. One branch stands for itself. -/
def branchesTree : List Tree → Tree
  | [branch] => branch
  | branches => .alternation branches

theorem tree_of_last_branch (branches : List Tree) (branch : Tree) :
    Regex.Level.tree ⟨branches, [branch]⟩ = branchesTree (branches.reverse ++ [branch]) := by
  cases branches with
  | nil => rfl
  | cons first rest =>
    simp only [Regex.Level.tree, concatOf, List.reverse_cons, List.reverse_nil, List.nil_append]
    unfold branchesTree
    split
    · rename_i hone
      simpa using congrArg List.length hone
    · rfl

/-- The reader takes the entries one after the other and ends at the end of the text. -/
theorem reaches_branches {entries : List String} (hne : entries ≠ [])
    (hplain : ∀ entry ∈ entries, Plain entry.toList) {state : ReadState}
    (hblanks : state.ignoreBlanks = false) (hparts : state.level.parts = [])
    (hrest : state.rest = (String.intercalate "|" (entries.map filterBranch)).toList) :
    ∃ last, Reaches state last ∧ last.ignoreBlanks = false ∧ last.rest = [] ∧
      last.groups = state.groups ∧
      last.level.tree = branchesTree (state.level.branches.reverse ++ entries.map groupOf) := by
  induction entries generalizing state with
  | nil => exact absurd rfl hne
  | cons entry others ih =>
    obtain ⟨hentry, hothers⟩ := List.forall_mem_cons.1 hplain
    cases others with
    | nil =>
      have hturns : Reaches state (state.push (groupOf entry) []) :=
        reaches_branch hentry hblanks (by simpa using hrest)
      refine ⟨_, hturns, hblanks, rfl, rfl, ?_⟩
      simp only [ReadState.push, hparts, tree_of_last_branch, List.map_cons, List.map_nil]
    | cons second others =>
      let behind := (String.intercalate "|" ((second :: others).map filterBranch)).toList
      let turned := state.push (groupOf entry) ('|' :: behind)
      let next : ReadState := { turned with
        rest := behind
        level := ⟨concatOf turned.level.parts.reverse :: turned.level.branches, []⟩ }
      have hturns : Reaches state turned := reaches_branch hentry hblanks (by simp [hrest, behind])
      have hbar : Reaches turned next := Regex.ReadState.reaches_bar hblanks rfl
      have hnext : next.ignoreBlanks = false := hblanks
      obtain ⟨last, hmore, hlast⟩ := ih (by simp) hothers hnext rfl rfl
      refine ⟨last, hturns.trans (hbar.trans hmore), ?_⟩
      simpa [next, turned, ReadState.push, hparts, concatOf] using hlast

/-! ## The expression of the text -/

theorem ofTrees_treesOf (afterStar : Bool) (entry : List Char) :
    ofTrees {} (treesOf afterStar entry) = some (partsOf afterStar entry, {}) := by
  induction entry generalizing afterStar with
  | nil => rfl
  | cons c rest ih =>
    have hstar : ofTree {} (.times .dot 0 none true) = some (starPart, {}) := rfl
    have hchar : ofTree {} (.literal ⟨c, false⟩) = some (.char c, {}) := rfl
    simp only [treesOf, partsOf]
    split
    · split
      · exact ih true
      · simp [ofTrees, hstar, ih]
    · simp [ofTrees, hchar, ih]

theorem ne_empty_of_mem_partsOf {afterStar : Bool} {entry : List Char} :
    ∀ part ∈ partsOf afterStar entry, part ≠ .empty :=
  forall_mem_partsOf (by simp [Regex.char]) (by simp [starPart])

theorem ofTree_concatOf {trees : List Tree} {parts : List Regex}
    (h : ofTrees {} trees = some (parts, {})) (hparts : ∀ part ∈ parts, part ≠ .empty) :
    ofTree {} (concatOf trees) = some (sequence parts, {}) := by
  have hfilter : parts.filter (· != .empty) = parts := by
    rw [List.filter_eq_self]
    simpa using hparts
  match trees with
  | [] =>
    simp only [ofTrees, Option.some.injEq, Prod.mk.injEq, and_true] at h
    subst h
    rfl
  | [tree] =>
    simp only [ofTrees, Option.bind_eq_some_iff, Option.map_some, Option.some.injEq, Prod.mk.injEq]
      at h
    obtain ⟨⟨part, flags⟩, htree, rfl, rfl⟩ := h
    exact htree
  | first :: second :: rest =>
    simp only [concatOf, ofTree, h, Option.map_some, hfilter]

theorem ofTree_groupOf (entry : String) :
    ofTree {} (groupOf entry) = some (expressionOf entry, {}) := by
  have hbody := ofTree_concatOf (ofTrees_treesOf false entry.toList) ne_empty_of_mem_partsOf
  simp only [groupOf, ofTree, Regex.Flags.apply, List.foldl_nil, hbody, Option.map_some,
    expressionOf]

theorem ofTrees_groups (entries : List String) :
    ofTrees {} (entries.map groupOf) = some (entries.map expressionOf, {}) := by
  induction entries with
  | nil => rfl
  | cons entry others ih => simp [ofTrees, ofTree_groupOf, ih]

theorem ofTree_branchesTree (entries : List String) :
    ofTree {} (branchesTree (entries.map groupOf)) =
      some (choice (entries.map expressionOf), {}) := by
  match entries with
  | [] => rfl
  | [entry] => exact ofTree_groupOf entry
  | first :: second :: others =>
    have htree : branchesTree ((first :: second :: others).map groupOf) =
        .alternation ((first :: second :: others).map groupOf) := rfl
    rw [htree, ofTree, ofTrees_groups, Option.map_some]

/-! ## Depth -/

theorem depth_concatOf_le (trees : List Tree) : (concatOf trees).depth ≤ maxDepth trees + 1 := by
  match trees with
  | [] => simp [concatOf, depth]
  | [tree] =>
    simp only [concatOf, maxDepth]
    omega
  | first :: second :: rest => simp [concatOf, depth]

theorem maxDepth_treesOf_le (afterStar : Bool) (entry : List Char) :
    maxDepth (treesOf afterStar entry) ≤ 1 := by
  induction entry generalizing afterStar with
  | nil => simp [treesOf, maxDepth]
  | cons c rest ih =>
    rw [treesOf]
    split
    · split
      · exact ih true
      · simp only [maxDepth, depth, ih, Nat.max_le, Nat.le_refl, true_and, Nat.zero_add]
    · simp only [maxDepth, depth, ih, Nat.max_le, Nat.zero_le, true_and]

theorem depth_groupOf_le (entry : String) : (groupOf entry).depth ≤ 3 := by
  have hdepth := depth_concatOf_le (treesOf false entry.toList)
  have hparts := maxDepth_treesOf_le false entry.toList
  simp only [groupOf, depth]
  omega

theorem maxDepth_groups_le (entries : List String) : maxDepth (entries.map groupOf) ≤ 3 := by
  induction entries with
  | nil => simp [maxDepth]
  | cons entry others ih =>
    simp only [List.map_cons, maxDepth, depth_groupOf_le, ih, Nat.max_le, and_self]

theorem depth_branchesTree_le (entries : List String) :
    (branchesTree (entries.map groupOf)).depth ≤ 4 := by
  have hgroups := maxDepth_groups_le entries
  unfold branchesTree
  split
  · rename_i hbranch
    rw [hbranch, maxDepth] at hgroups
    omega
  · rw [depth]
    omega

/-! ## The filter of plain entries -/

/-- The regular expression of a list of entries, as text. -/
def joined (entries : List String) : String :=
  String.intercalate "|" (entries.map filterBranch)

theorem filterText_of_ne_nil {entries : List String} (hne : entries ≠ []) :
    filterText entries = .ok (joined entries) := by
  rw [filterText, List.isEmpty_eq_false_iff.2 hne]
  rfl

variable {limit : Regex.Limit}

/-- Where there are entries, the filter stands and falls with their text. -/
theorem ofEntries_of_ne_nil {entries : List String} (hne : entries ≠ []) :
    ofEntries entries limit =
      match Regex.read? (joined entries).toList limit with
      | some regex => .ok ⟨joined entries, regex⟩
      | none => .error (.invalidPattern (joined entries)) := by
  rw [ofEntries, filterText_of_ne_nil hne]
  rfl

theorem ne_nil_of_ofEntries {entries : List String} {filter : Filter}
    (h : ofEntries entries limit = .ok filter) : entries ≠ [] := by
  rintro rfl
  cases h

/-- The text of plain entries is read as a choice among what they stand for. -/
theorem parse?_of_plain {entries : List String} (hne : entries ≠ [])
    (hplain : ∀ entry ∈ entries, Plain entry.toList) :
    Regex.parse? (joined entries).toList = some (choice (entries.map expressionOf)) := by
  let text := (joined entries).toList
  obtain ⟨last, hturns, hblanks, hend, hgroups, htree⟩ :=
    reaches_branches hne hplain (show (ReadState.start text).ignoreBlanks = false from rfl) rfl rfl
  have hrun := Regex.ReadState.run_of_reaches_end hturns hblanks hend hgroups
    (Nat.lt_succ_self text.length)
  have htree : last.level.tree = branchesTree (entries.map groupOf) := htree
  have hdepth : last.level.tree.depth ≤ Regex.depthLimit := by
    have := depth_branchesTree_le entries
    rw [htree, Regex.depthLimit]
    omega
  have hread : Tree.read? text = some last.level.tree := by
    rw [Tree.read?, hrun]
    simpa [Option.filter] using hdepth
  rw [Regex.parse?, hread, Option.bind_some, htree, ofTree_branchesTree]
  rfl

/-- Plain entries make a filter when the limit admits their text. -/
theorem ofEntries_of_plain {entries : List String} (hne : entries ≠ [])
    (hplain : ∀ entry ∈ entries, Plain entry.toList) :
    ofEntries entries limit =
      if limit (joined entries).toList then
        .ok ⟨joined entries, choice (entries.map expressionOf)⟩
      else .error (.invalidPattern (joined entries)) := by
  rw [ofEntries_of_ne_nil hne, Regex.read?, parse?_of_plain hne hplain]
  cases limit (joined entries).toList <;> rfl

/-- The filter of plain entries searches for any of them, earlier ones preferred. -/
theorem regex_of_ofEntries {entries : List String} {filter : Filter}
    (hplain : ∀ entry ∈ entries, Plain entry.toList) (h : ofEntries entries limit = .ok filter) :
    filter.regex = choice (entries.map expressionOf) := by
  rw [ofEntries_of_plain (ne_nil_of_ofEntries h) hplain] at h
  split at h
  · rw [← Except.ok.inj h]
  · cases h

/-! ## What a search finds -/

theorem loopsConsume_choice_expressions (entries : List String) :
    (choice (entries.map expressionOf)).LoopsConsume := by
  apply Regex.loopsConsume_choice
  simp only [List.forall_mem_map]
  exact fun entry _ => Regex.loopsConsume_sequence loopsConsume_partsOf

/-- A filter of plain entries finds a text when some entry stands for a part of it. -/
theorem isMatch_iff_spells {entries : List String} {filter : Filter}
    (hplain : ∀ entry ∈ entries, Plain entry.toList) (h : ofEntries entries limit = .ok filter)
    {text : String} :
    filter.isMatch text = true ↔
      ∃ entry ∈ entries, ∃ before part after,
        text.toList = before ++ part ++ after ∧ Spells entry.toList part := by
  rw [isMatch, regex_of_ofEntries hplain h,
    Regex.isMatch_iff (loopsConsume_choice_expressions entries)]
  simp only [Regex.matches_choice]
  constructor
  · rintro ⟨place, hplace, ending, branch, hbranch, hmatch⟩
    obtain ⟨entry, hentry, rfl⟩ := List.mem_map.1 hbranch
    obtain ⟨part, hspells, before, after, htext, -, -⟩ := (matches_partsOf_iff hplace).1.1 hmatch
    exact ⟨entry, hentry, before, part, after, htext, hspells⟩
  · rintro ⟨entry, hentry, before, part, after, htext, hspells⟩
    have hplace : before.length ≤ text.toList.length := by
      simp only [htext, List.length_append]
      omega
    exact ⟨before.length, hplace, before.length + part.length, expressionOf entry,
      List.mem_map_of_mem hentry,
      (matches_partsOf_iff hplace).1.2 ⟨part, hspells, before, after, htext, rfl, rfl⟩⟩

end Filter

end AppBoundary
