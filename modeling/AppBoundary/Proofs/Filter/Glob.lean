-- What an entry of the filter stands for. A star is any text within a line and
-- every other character is itself; the expression of an entry matches just the
-- places between which such a text lies.
import AppBoundary.Proofs.Regex.Meaning

namespace AppBoundary.Filter

open Regex (sequence Matches Steps)

/-! ## Texts of an entry -/

/-- The entry stands for a text. -/
inductive Spells : (entry text : List Char) → Prop
  | nothing : Spells [] []
  | character {c entry text} : c ≠ '*' → Spells entry text → Spells (c :: entry) (c :: text)
  | star {run entry text} : '\n' ∉ run → Spells entry text → Spells ('*' :: entry) (run ++ text)

theorem spells_nil_iff {part : List Char} : Spells [] part ↔ part = [] := by
  constructor
  · rintro ⟨⟩
    rfl
  · rintro rfl
    exact .nothing

theorem spells_character_iff {c : Char} (hc : c ≠ '*') {entry part : List Char} :
    Spells (c :: entry) part ↔ ∃ rest, part = c :: rest ∧ Spells entry rest := by
  constructor
  · intro h
    cases h with
    | character _ h => exact ⟨_, rfl, h⟩
    | star _ _ => exact absurd rfl hc
  · rintro ⟨rest, rfl, h⟩
    exact .character hc h

theorem spells_star_iff {entry part : List Char} :
    Spells ('*' :: entry) part ↔ ∃ run rest, '\n' ∉ run ∧ Spells entry rest ∧ part = run ++ rest := by
  constructor
  · intro h
    cases h with
    | character hc _ => exact absurd rfl hc
    | star hrun h => exact ⟨_, _, hrun, h, rfl⟩
  · rintro ⟨run, rest, hrun, h, rfl⟩
    exact .star hrun h

/-- A star behind a star adds no text. -/
theorem spells_star_star_iff {entry part : List Char} :
    Spells ('*' :: '*' :: entry) part ↔ Spells ('*' :: entry) part := by
  simp only [spells_star_iff]
  constructor
  · rintro ⟨first, _, hfirst, ⟨second, rest, hsecond, h, rfl⟩, rfl⟩
    refine ⟨first ++ second, rest, ?_, h, by simp⟩
    simp [hfirst, hsecond]
  · rintro ⟨run, rest, hrun, h, rfl⟩
    exact ⟨run, rest, hrun, ⟨[], rest, by simp, h, rfl⟩, rfl⟩

/-- Every entry stands for itself, each star for a star. -/
theorem spells_self (entry : List Char) : Spells entry entry := by
  induction entry with
  | nil => exact .nothing
  | cons c rest ih =>
    by_cases hc : c = '*'
    · subst hc
      have hrun : '\n' ∉ ['*'] := by decide
      exact .star hrun ih
    · exact .character hc ih

theorem spells_append {first second text1 text2 : List Char} (h1 : Spells first text1)
    (h2 : Spells second text2) : Spells (first ++ second) (text1 ++ text2) := by
  induction h1 with
  | nothing => exact h2
  | character hc _ ih => exact .character hc ih
  | star hrun _ ih =>
    rw [List.append_assoc]
    exact .star hrun ih

/-- Stars alone stand for nothing too. -/
theorem spells_stars (n : Nat) : Spells (List.replicate n '*') [] := by
  induction n with
  | zero => exact .nothing
  | succ n ih => exact .star (List.not_mem_nil (a := '\n')) ih

/-! ## Parts of a text -/

/-- The part of a text that lies between two places. -/
def Between (text : List Char) (place ending : Nat) (part : List Char) : Prop :=
  ∃ before after, text = before ++ part ++ after ∧ before.length = place ∧
    place + part.length = ending

section Between

variable {text : List Char} {place ending : Nat}

theorem between_nil_iff : Between text place ending [] ↔ place ≤ text.length ∧ ending = place := by
  constructor
  · rintro ⟨before, after, rfl, rfl, rfl⟩
    simp
  · rintro ⟨hplace, rfl⟩
    exact ⟨text.take ending, text.drop ending, by simp, by simp [hplace], rfl⟩

theorem between_append_iff {first second : List Char} :
    Between text place ending (first ++ second) ↔
      ∃ next, Between text place next first ∧ Between text next ending second := by
  constructor
  · rintro ⟨before, after, rfl, rfl, rfl⟩
    refine ⟨_, ⟨before, second ++ after, by simp, rfl, rfl⟩,
      before ++ first, after, by simp, by simp, ?_⟩
    rw [List.length_append]
    omega
  · rintro ⟨next, ⟨before, behind, htext, rfl, rfl⟩, ahead, after, rfl, hlength, rfl⟩
    have hahead : ahead = before ++ first := by
      rw [List.append_assoc] at htext
      exact (List.append_inj htext (by simp [hlength])).1
    subst hahead
    exact ⟨before, after, by simp, rfl, by rw [List.length_append]; omega⟩

theorem between_singleton_iff {c : Char} :
    Between text place ending [c] ↔ text[place]? = some c ∧ ending = place + 1 := by
  constructor
  · rintro ⟨before, after, rfl, rfl, rfl⟩
    simp
  · rintro ⟨hc, rfl⟩
    obtain ⟨hlt, rfl⟩ := List.getElem?_eq_some_iff.1 hc
    refine ⟨text.take place, text.drop (place + 1), ?_, by simp; omega, rfl⟩
    rw [List.append_assoc, List.singleton_append, List.getElem_cons_drop, List.take_append_drop]

theorem between_cons_iff {c : Char} {rest : List Char} :
    Between text place ending (c :: rest) ↔
      text[place]? = some c ∧ Between text (place + 1) ending rest := by
  rw [← List.singleton_append, between_append_iff]
  simp only [between_singleton_iff]
  constructor
  · rintro ⟨next, ⟨hc, rfl⟩, hrest⟩
    exact ⟨hc, hrest⟩
  · rintro ⟨hc, hrest⟩
    exact ⟨_, ⟨hc, rfl⟩, hrest⟩

end Between

/-! ## The expression of an entry -/

/-- Any text within a line, as long as can be. -/
def starPart : Regex :=
  .times .dot 0 none true

/-- The parts that the characters of an entry become. The flag says that a star came just before. -/
def partsOf (afterStar : Bool) : List Char → List Regex
  | [] => []
  | c :: rest =>
    if c = '*' then if afterStar then partsOf true rest else starPart :: partsOf true rest
    else .char c :: partsOf false rest

/-- The expression of an entry. -/
def expressionOf (entry : String) : Regex :=
  sequence (partsOf false entry.toList)

/-- The parts of an entry are characters and stars. -/
theorem forall_mem_partsOf {p : Regex → Prop} (hchar : ∀ c, p (.char c)) (hstar : p starPart)
    {afterStar : Bool} {entry : List Char} : ∀ part ∈ partsOf afterStar entry, p part := by
  induction entry generalizing afterStar with
  | nil => simp [partsOf]
  | cons c rest ih =>
    rw [partsOf]
    split
    · split
      · exact ih
      · exact List.forall_mem_cons.2 ⟨hstar, ih⟩
    · exact List.forall_mem_cons.2 ⟨hchar c, ih⟩

theorem loopsConsume_partsOf {afterStar : Bool} {entry : List Char} :
    ∀ part ∈ partsOf afterStar entry, part.LoopsConsume := by
  have hchar : ∀ c, (Regex.char c).LoopsConsume := fun _ => trivial
  have hstar : starPart.LoopsConsume := ⟨trivial, fun _ => rfl⟩
  exact forall_mem_partsOf hchar hstar

/-! ## Matches of single parts -/

section Parts

variable {text : List Char} {place ending : Nat}

theorem matches_char_iff {c : Char} :
    (Regex.char c).Matches text place ending ↔ text[place]? = some c ∧ ending = place + 1 := by
  simp only [Regex.char, Matches, Unicode.CharSet.contains_single]
  constructor
  · rintro ⟨_, hat, rfl, hending⟩
    exact ⟨hat, hending⟩
  · rintro ⟨hat, hending⟩
    exact ⟨c, hat, rfl, hending⟩

theorem contains_dot_iff {c : Char} :
    Unicode.CharSet.contains ⟨[(0, 9), (11, Unicode.CharSet.maxCode)]⟩ c = true ↔ c ≠ '\n' := by
  have hmax : c.toNat ≤ Unicode.CharSet.maxCode := by
    have := c.valid
    simp only [UInt32.isValidChar, Nat.isValidChar] at this
    simp only [Char.toNat, Unicode.CharSet.maxCode]
    omega
  have hfeed : c = '\n' ↔ c.toNat = 10 :=
    ⟨fun h => h ▸ rfl, fun h => Char.ext (UInt32.toNat_inj.1 h)⟩
  simp only [Unicode.CharSet.contains, Unicode.CharSet.containsCode, Unicode.CharSet.holdsCode,
    ne_eq, hfeed, Nat.not_lt_zero, if_false]
  by_cases hlow : c.toNat ≤ 9
  · rw [if_pos hlow]
    simp only [true_iff]
    omega
  by_cases heleven : c.toNat < 11
  · rw [if_neg hlow, if_pos heleven]
    simp only [Bool.false_eq_true, false_iff]
    omega
  · rw [if_neg hlow, if_neg heleven, if_pos hmax]
    simp only [true_iff]
    omega

theorem matches_dot_iff :
    Regex.dot.Matches text place ending ↔
      ∃ c, text[place]? = some c ∧ c ≠ '\n' ∧ ending = place + 1 := by
  simp only [Regex.dot, Matches, contains_dot_iff]

theorem steps_dot_iff (hplace : place ≤ text.length) {n : Nat} :
    Steps (Regex.dot.Matches text) n place ending ↔
      ∃ run, run.length = n ∧ '\n' ∉ run ∧ Between text place ending run := by
  induction n generalizing place with
  | zero =>
    simp only [Steps, List.length_eq_zero_iff, exists_eq_left, List.not_mem_nil, not_false_eq_true,
      true_and, between_nil_iff, hplace]
  | succ n ih =>
    simp only [Steps, matches_dot_iff]
    constructor
    · rintro ⟨_, ⟨c, hc, hfeed, rfl⟩, hsteps⟩
      obtain ⟨hlt, -⟩ := List.getElem?_eq_some_iff.1 hc
      obtain ⟨run, rfl, hrun, hbetween⟩ := (ih hlt).1 hsteps
      exact ⟨c :: run, rfl, by simp [hrun, hfeed.symm], between_cons_iff.2 ⟨hc, hbetween⟩⟩
    · rintro ⟨run, hlength, hrun, hbetween⟩
      obtain ⟨c, run, rfl⟩ := List.exists_cons_of_length_eq_add_one hlength
      obtain ⟨hc, hbetween⟩ := between_cons_iff.1 hbetween
      obtain ⟨hlt, -⟩ := List.getElem?_eq_some_iff.1 hc
      simp only [List.mem_cons, not_or] at hrun
      exact ⟨_, ⟨c, hc, Ne.symm hrun.1, rfl⟩,
        (ih hlt).2 ⟨run, by simpa using hlength, hrun.2, hbetween⟩⟩

theorem matches_starPart_iff (hplace : place ≤ text.length) :
    starPart.Matches text place ending ↔ ∃ run, '\n' ∉ run ∧ Between text place ending run := by
  simp only [starPart, Matches, steps_dot_iff hplace]
  constructor
  · rintro ⟨_, -, -, run, -, hrun, hbetween⟩
    exact ⟨run, hrun, hbetween⟩
  · rintro ⟨run, hrun, hbetween⟩
    exact ⟨_, Nat.zero_le _, by simp, run, rfl, hrun, hbetween⟩

/-! ## Matches of an entry -/

/-- A star and what follows it, taken apart at the place between them. -/
theorem spells_star_between_iff (hplace : place ≤ text.length) {entry : List Char} :
    (∃ part, Spells ('*' :: entry) part ∧ Between text place ending part) ↔
      ∃ next, starPart.Matches text place next ∧
        ∃ part, Spells entry part ∧ Between text next ending part := by
  simp only [matches_starPart_iff hplace, spells_star_iff]
  constructor
  · rintro ⟨_, ⟨run, rest, hrun, h, rfl⟩, hbetween⟩
    obtain ⟨next, hfirst, hsecond⟩ := between_append_iff.1 hbetween
    exact ⟨next, ⟨run, hrun, hfirst⟩, rest, h, hsecond⟩
  · rintro ⟨next, ⟨run, hrun, hfirst⟩, rest, h, hsecond⟩
    exact ⟨_, ⟨run, rest, hrun, h, rfl⟩, between_append_iff.2 ⟨next, hfirst, hsecond⟩⟩

/-- The parts of an entry match between two places when a text of the entry lies there. Behind a
star the same holds of the star and the parts together, for the parts leave out further stars. -/
theorem matches_partsOf_iff {entry : List Char} (hplace : place ≤ text.length) :
    ((sequence (partsOf false entry)).Matches text place ending ↔
      ∃ part, Spells entry part ∧ Between text place ending part) ∧
    ((∃ next, starPart.Matches text place next ∧
        (sequence (partsOf true entry)).Matches text next ending) ↔
      ∃ part, Spells ('*' :: entry) part ∧ Between text place ending part) := by
  -- The second claim follows from the first where the entry begins with no star.
  induction entry generalizing place with
  | nil =>
    have hnil : ∀ {next}, next ≤ text.length → ((sequence []).Matches text next ending ↔
        ∃ part, Spells [] part ∧ Between text next ending part) := by
      intro next hnext
      simp [Regex.sequence, Matches, spells_nil_iff, between_nil_iff, hnext]
    refine ⟨hnil hplace, ?_⟩
    rw [spells_star_between_iff hplace]
    exact exists_congr fun next => and_congr_right fun hstar =>
      hnil (Regex.matches_inside hstar hplace)
  | cons c rest ih =>
    by_cases hc : c = '*'
    · subst hc
      simp only [partsOf, if_true, Bool.false_eq_true, if_false, Regex.matches_sequence_cons,
        spells_star_star_iff]
      exact ⟨(ih hplace).2, (ih hplace).2⟩
    · have hfirst : ∀ {next}, ((sequence (.char c :: partsOf false rest)).Matches text next ending ↔
          ∃ part, Spells (c :: rest) part ∧ Between text next ending part) := by
        intro next
        simp only [Regex.matches_sequence_cons, matches_char_iff, spells_character_iff hc]
        constructor
        · rintro ⟨_, ⟨hat, rfl⟩, hmatch⟩
          obtain ⟨hlt, -⟩ := List.getElem?_eq_some_iff.1 hat
          obtain ⟨part, h, hbetween⟩ := (ih hlt).1.1 hmatch
          exact ⟨c :: part, ⟨part, rfl, h⟩, between_cons_iff.2 ⟨hat, hbetween⟩⟩
        · rintro ⟨_, ⟨part, rfl, h⟩, hbetween⟩
          obtain ⟨hat, hbetween⟩ := between_cons_iff.1 hbetween
          obtain ⟨hlt, -⟩ := List.getElem?_eq_some_iff.1 hat
          exact ⟨_, ⟨hat, rfl⟩, (ih hlt).1.2 ⟨part, h, hbetween⟩⟩
      simp only [partsOf, hc, if_false]
      refine ⟨hfirst, ?_⟩
      rw [spells_star_between_iff hplace]
      exact exists_congr fun next => and_congr_right fun _ => hfirst

end Parts

end AppBoundary.Filter
