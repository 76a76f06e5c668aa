-- The filter as a search for globs. Entries without metacharacters are globs in
-- which a whole run of stars is one wildcard, and a text matches when a part of it
-- is what some entry stands for, whatever the others are and however they are put.
import AppBoundary.Proofs.Filter.Reading

namespace AppBoundary.Filter

/-! ## Globs -/

/-- The glob stands for a text: a whole run of stars is any text within a line, and every other
character is itself. -/
inductive Globs : (glob text : List Char) → Prop
  | nothing : Globs [] []
  | character {c glob text} : c ≠ '*' → Globs glob text → Globs (c :: glob) (c :: text)
  | stars {n run glob text} : glob.head? ≠ some '*' → '\n' ∉ run → Globs glob text →
      Globs (List.replicate (n + 1) '*' ++ glob) (run ++ text)

/-- One more star in front joins the run that a glob begins with, if it begins with one. -/
theorem Globs.star {run glob text : List Char} (hrun : '\n' ∉ run) (h : Globs glob text) :
    Globs ('*' :: glob) (run ++ text) := by
  cases h with
  | nothing => exact .stars (n := 0) (by simp) hrun .nothing
  | character hc h => exact .stars (n := 0) (by simpa using hc) hrun (.character hc h)
  | @stars n inner glob text hhead hinner h =>
    have hjoined : '\n' ∉ run ++ inner := by simp [hrun, hinner]
    rw [← List.append_assoc]
    exact .stars (n := n + 1) hhead hjoined h

theorem spells_of_globs {glob text : List Char} (h : Globs glob text) : Spells glob text := by
  induction h with
  | nothing => exact .nothing
  | character hc _ ih => exact .character hc ih
  | @stars n run glob text _ hrun _ ih =>
    -- The first star of the run takes the text, the others take nothing.
    have hothers : Spells (List.replicate n '*' ++ glob) text := spells_append (spells_stars n) ih
    exact .star hrun hothers

theorem globs_of_spells {glob text : List Char} (h : Spells glob text) : Globs glob text := by
  induction h with
  | nothing => exact .nothing
  | character hc _ ih => exact .character hc ih
  | star hrun _ ih => exact .star hrun ih

/-- Stars taken one by one and stars taken by runs stand for the same texts. -/
theorem spells_iff_globs {glob text : List Char} : Spells glob text ↔ Globs glob text :=
  ⟨globs_of_spells, spells_of_globs⟩

/-! ## Runs of stars -/

/-- The glob with one star for each run of stars. -/
def squeeze : List Char → List Char
  | [] => []
  | c :: rest => if c = '*' ∧ rest.head? = some '*' then squeeze rest else c :: squeeze rest

theorem mem_squeeze_iff {c : Char} {glob : List Char} : c ∈ squeeze glob ↔ c ∈ glob := by
  induction glob with
  | nil => rfl
  | cons first rest ih =>
    rw [squeeze]
    split
    · rename_i hstars
      obtain ⟨rest, rfl⟩ := List.head?_eq_some_iff.1 hstars.2
      rw [ih, hstars.1]
      simp
    · rw [List.mem_cons, List.mem_cons, ih]

/-- The length of a run of stars plays no part. -/
theorem spells_squeeze_iff {glob text : List Char} :
    Spells (squeeze glob) text ↔ Spells glob text := by
  induction glob generalizing text with
  | nil => rfl
  | cons c rest ih =>
    rw [squeeze]
    split
    · rename_i hstars
      obtain ⟨rest, rfl⟩ := List.head?_eq_some_iff.1 hstars.2
      rw [ih, hstars.1, spells_star_star_iff]
    · by_cases hc : c = '*'
      · subst hc
        simp only [spells_star_iff, ih]
      · simp only [spells_character_iff hc, ih]

/-! ## The search -/

/-- A part of the text is what the glob stands for. -/
def Occurs (glob text : List Char) : Prop :=
  ∃ before part after, text = before ++ part ++ after ∧ Globs glob part

theorem occurs_squeeze_iff {glob text : List Char} :
    Occurs (squeeze glob) text ↔ Occurs glob text := by
  simp only [Occurs, ← spells_iff_globs, spells_squeeze_iff]

variable {limit : Regex.Limit}

theorem isMatch_iff_occurs {entries : List String} {filter : Filter}
    (hplain : ∀ entry ∈ entries, Plain entry.toList) (h : ofEntries entries limit = .ok filter)
    {text : String} :
    filter.isMatch text = true ↔ ∃ entry ∈ entries, Occurs entry.toList text.toList := by
  simp only [isMatch_iff_spells hplain h, Occurs, spells_iff_globs]

/-- The search looks at the squeezed entries alone. -/
theorem isMatch_iff_squeezed {entries : List String} {filter : Filter}
    (hplain : ∀ entry ∈ entries, Plain entry.toList) (h : ofEntries entries limit = .ok filter)
    {text : String} :
    filter.isMatch text = true ↔
      ∃ glob ∈ entries.map (squeeze ·.toList), Occurs glob text.toList := by
  simp only [isMatch_iff_occurs hplain h, List.mem_map, exists_exists_and_eq_and,
    occurs_squeeze_iff]

/-- Squeezing keeps every character, so entries with the same squeezed forms are plain together. -/
theorem plain_of_squeezed {entries others : List String}
    (hsame : ∀ glob ∈ others.map (squeeze ·.toList), glob ∈ entries.map (squeeze ·.toList))
    (hplain : ∀ entry ∈ entries, Plain entry.toList) : ∀ other ∈ others, Plain other.toList := by
  intro other hother c hc
  obtain ⟨entry, hentry, heq⟩ := List.mem_map.1 (hsame _ (List.mem_map_of_mem hother))
  exact hplain entry hentry c (mem_squeeze_iff.1 (heq ▸ mem_squeeze_iff.2 hc))

/-! ## The law -/

/-- A filter of entries without metacharacters matches the texts with a part that some entry stands
for as a glob. Another filter matches the same texts when its entries are the same apart from their
order, repetitions and the lengths of their runs of stars. The limit on the size of a filter has no
part in what it matches. -/
theorem the_filter_is_a_search_for_globs {entries : List String} {filter : Filter}
    (hplain : ∀ entry ∈ entries, ∀ c ∈ entry.toList, c ∉ metacharacters)
    (hfilter : ofEntries entries limit = .ok filter) :
    (∀ text : String, filter.isMatch text = true ↔
      ∃ entry ∈ entries, Occurs entry.toList text.toList) ∧
    ∀ (others : List String) (other : Filter) (otherLimit : Regex.Limit),
      ofEntries others otherLimit = .ok other →
      (∀ glob, glob ∈ others.map (squeeze ·.toList) ↔ glob ∈ entries.map (squeeze ·.toList)) →
      ∀ text, other.isMatch text = filter.isMatch text := by
  refine ⟨fun _ => isMatch_iff_occurs hplain hfilter, fun others other _ hother hsame text => ?_⟩
  have hothers := plain_of_squeezed (fun glob => (hsame glob).1) hplain
  rw [Bool.eq_iff_iff, isMatch_iff_squeezed hothers hother, isMatch_iff_squeezed hplain hfilter]
  simp only [hsame]

/-- A letter with an accent and a line feed stand for themselves, and a run of stars reaches over a
letter that the other entry names. -/
theorem two_globs_are_searched_for :
    ∃ filter other, ofEntries ["é.\n", "a***b."] = .ok filter ∧
      ofEntries ["a*b.", "é.\n", "a**b."] = .ok other ∧
      filter.isMatch "xaéb.y" = true ∧ other.isMatch "xaéb.y" = true := by
  obtain ⟨filter, hfilter⟩ : ∃ filter, ofEntries ["é.\n", "a***b."] = .ok filter := ⟨_, rfl⟩
  obtain ⟨other, hother⟩ : ∃ other, ofEntries ["a*b.", "é.\n", "a**b."] = .ok other := ⟨_, rfl⟩
  obtain ⟨hsearch, hothers⟩ := the_filter_is_a_search_for_globs (by simp [metacharacters]) hfilter
  have hrun : '\n' ∉ ['é'] := by decide
  have hglob : Globs "a***b.".toList "aéb.".toList :=
    .character (by decide) (.stars (n := 2) (by decide) hrun
      (.character (by decide) (.character (by decide) .nothing)))
  have hmatch : filter.isMatch "xaéb.y" = true :=
    (hsearch _).2 ⟨_, by simp, ['x'], _, ['y'], by decide, hglob⟩
  have hsame : ∀ glob, glob ∈ ["a*b.", "é.\n", "a**b."].map (squeeze ·.toList) ↔
      glob ∈ ["é.\n", "a***b."].map (squeeze ·.toList) := by
    have hmore : ["a*b.", "é.\n", "a**b."].map (squeeze ·.toList) =
        ["a*b.", "é.\n", "a*b."].map String.toList := by decide
    have hless : ["é.\n", "a***b."].map (squeeze ·.toList) =
        ["é.\n", "a*b."].map String.toList := by decide
    intro glob
    rw [hmore, hless]
    simp only [List.map_cons, List.map_nil, List.mem_cons, List.not_mem_nil, or_false]
    rw [or_left_comm, or_self]
  refine ⟨filter, other, hfilter, hother, hmatch, ?_⟩
  rw [hothers _ _ _ hother hsame, hmatch]

end AppBoundary.Filter
