-- What a regular expression matches, said of places: a match leads from one
-- place of a text to another. The order in which matches are preferred plays no
-- part here.
import AppBoundary.Regex.Basic

namespace AppBoundary.Regex

/-! ## Steps between places -/

/-- A step taken a number of times. -/
def Steps (step : Nat → Nat → Prop) : Nat → Nat → Nat → Prop
  | 0, place, ending => ending = place
  | n + 1, place, ending => ∃ next, step place next ∧ Steps step n next ending

section Steps

variable {step : Nat → Nat → Prop}

theorem steps_one {place ending : Nat} : Steps step 1 place ending ↔ step place ending := by
  simp [Steps]

theorem steps_add {m n place ending : Nat} :
    Steps step (m + n) place ending ↔
      ∃ next, Steps step m place next ∧ Steps step n next ending := by
  induction m generalizing place with
  | zero => simp [Steps]
  | succ m ih =>
    rw [Nat.succ_add]
    simp only [Steps, ih]
    constructor
    · rintro ⟨first, hfirst, next, hm, hn⟩
      exact ⟨next, ⟨first, hfirst, hm⟩, hn⟩
    · rintro ⟨next, ⟨first, hfirst, hm⟩, hn⟩
      exact ⟨first, hfirst, next, hm, hn⟩

/-- Any number of steps is none, or one and then any number. -/
theorem exists_steps_iff {place ending : Nat} :
    (∃ n, Steps step n place ending) ↔
      ending = place ∨ ∃ next, step place next ∧ ∃ n, Steps step n next ending := by
  constructor
  · rintro ⟨n, hsteps⟩
    cases n with
    | zero => exact Or.inl hsteps
    | succ n =>
      obtain ⟨next, hstep, hrest⟩ := hsteps
      exact Or.inr ⟨next, hstep, n, hrest⟩
  · rintro (hstill | ⟨next, hstep, n, hrest⟩)
    · exact ⟨0, hstill⟩
    · exact ⟨n + 1, next, hstep, hrest⟩

/-- A bound that one step keeps is kept by any number of them. -/
theorem bound_of_steps {length : Nat} (h : ∀ i j, step i j → i ≤ length → j ≤ length)
    {n place ending : Nat} (hsteps : Steps step n place ending) (hplace : place ≤ length) :
    ending ≤ length := by
  induction n generalizing place with
  | zero => exact hsteps ▸ hplace
  | succ n ih =>
    obtain ⟨next, hstep, hrest⟩ := hsteps
    exact ih hrest (h _ _ hstep hplace)

theorem le_of_steps (h : ∀ i j, step i j → i ≤ j) {n place ending : Nat}
    (hsteps : Steps step n place ending) : place ≤ ending := by
  induction n generalizing place with
  | zero => exact hsteps ▸ Nat.le_refl _
  | succ n ih =>
    obtain ⟨next, hstep, hrest⟩ := hsteps
    exact Nat.le_trans (h _ _ hstep) (ih hrest)

end Steps

/-! ## Meaning -/

/-- The expression matches from one place of the text to another. -/
def Matches (text : List Char) : Regex → Nat → Nat → Prop
  | .empty, place, ending => ending = place
  | .set characters, place, ending =>
    ∃ c, text[place]? = some c ∧ characters.contains c = true ∧ ending = place + 1
  | .look condition, place, ending =>
    condition.holds (if place = 0 then none else text[place - 1]?) text[place]? = true ∧
      ending = place
  | .cat first second, place, ending =>
    ∃ next, first.Matches text place next ∧ second.Matches text next ending
  | .alt first second, place, ending =>
    first.Matches text place ending ∨ second.Matches text place ending
  | .capture body, place, ending => body.Matches text place ending
  | .times body least most _, place, ending =>
    ∃ n, least ≤ n ∧ (∀ limit, most = some limit → n ≤ max least limit) ∧
      Steps (body.Matches text) n place ending

/-- Every repetition without an upper bound has a body that takes a character. -/
def LoopsConsume : Regex → Prop
  | .empty | .set _ | .look _ => True
  | .cat first second | .alt first second => first.LoopsConsume ∧ second.LoopsConsume
  | .capture body => body.LoopsConsume
  | .times body _ most _ => body.LoopsConsume ∧ (most = none → body.consumes = true)

/-! ## The places of a match -/

section Places

variable {text : List Char}

theorem matches_le {regex : Regex} {place ending : Nat} (h : regex.Matches text place ending) :
    place ≤ ending := by
  induction regex generalizing place ending with
  | empty => exact h ▸ Nat.le_refl _
  | set characters =>
    obtain ⟨c, -, -, rfl⟩ := h
    omega
  | look condition => exact h.2 ▸ Nat.le_refl _
  | cat first second ih1 ih2 =>
    obtain ⟨next, h1, h2⟩ := h
    exact Nat.le_trans (ih1 h1) (ih2 h2)
  | alt first second ih1 ih2 => exact h.elim ih1 ih2
  | capture body ih => exact ih h
  | times body least most greedy ih =>
    obtain ⟨n, -, -, hsteps⟩ := h
    exact le_of_steps (fun _ _ => ih) hsteps

/-- A match stays within the text. -/
theorem matches_inside {regex : Regex} {place ending : Nat}
    (h : regex.Matches text place ending) (hplace : place ≤ text.length) :
    ending ≤ text.length := by
  induction regex generalizing place ending with
  | empty => exact h ▸ hplace
  | set characters =>
    obtain ⟨c, hc, -, rfl⟩ := h
    obtain ⟨hlt, -⟩ := List.getElem?_eq_some_iff.1 hc
    exact hlt
  | look condition => exact h.2 ▸ hplace
  | cat first second ih1 ih2 =>
    obtain ⟨next, h1, h2⟩ := h
    exact ih2 h2 (ih1 h1 hplace)
  | alt first second ih1 ih2 => exact h.elim (ih1 · hplace) (ih2 · hplace)
  | capture body ih => exact ih h hplace
  | times body least most greedy ih =>
    obtain ⟨n, -, -, hsteps⟩ := h
    exact bound_of_steps (fun _ _ => ih) hsteps hplace

/-- An expression that consumes takes a character in every match. -/
theorem matches_lt {regex : Regex} (hc : regex.consumes = true) {place ending : Nat}
    (h : regex.Matches text place ending) : place < ending := by
  induction regex generalizing place ending with
  | empty => simp [consumes] at hc
  | set characters =>
    obtain ⟨c, -, -, rfl⟩ := h
    omega
  | look condition => simp [consumes] at hc
  | cat first second ih1 ih2 =>
    obtain ⟨next, h1, h2⟩ := h
    rcases (Bool.or_eq_true _ _).mp hc with hfirst | hsecond
    · exact Nat.lt_of_lt_of_le (ih1 hfirst h1) (matches_le h2)
    · exact Nat.lt_of_le_of_lt (matches_le h1) (ih2 hsecond h2)
  | alt first second ih1 ih2 =>
    obtain ⟨hfirst, hsecond⟩ := (Bool.and_eq_true _ _).mp hc
    exact h.elim (ih1 hfirst) (ih2 hsecond)
  | capture body ih => exact ih hc h
  | times body least most greedy ih =>
    obtain ⟨hleast, hbody⟩ := (Bool.and_eq_true _ _).mp hc
    obtain ⟨n, hn, -, hsteps⟩ := h
    have hleast : least ≠ 0 := by simpa using hleast
    obtain ⟨n, rfl⟩ : ∃ m, n = m + 1 := ⟨n - 1, by omega⟩
    obtain ⟨next, hstep, hrest⟩ := hsteps
    exact Nat.lt_of_lt_of_le (ih hbody hstep) (le_of_steps (fun _ _ => matches_le) hrest)

/-! ## Lists of parts -/

theorem matches_sequence_cons {part : Regex} {rest : List Regex} {place ending : Nat} :
    (sequence (part :: rest)).Matches text place ending ↔
      ∃ next, part.Matches text place next ∧ (sequence rest).Matches text next ending := by
  cases rest with
  | nil => simp [sequence, Matches]
  | cons second rest => rfl

theorem matches_choice {branches : List Regex} {place ending : Nat} :
    (choice branches).Matches text place ending ↔
      ∃ branch ∈ branches, branch.Matches text place ending := by
  induction branches with
  | nil =>
    simp [choice, Matches, Unicode.CharSet.contains, Unicode.CharSet.containsCode,
      Unicode.CharSet.holdsCode, Unicode.CharSet.empty]
  | cons branch rest ih =>
    cases rest with
    | nil => simp [choice]
    | cons second rest =>
      simp only [choice, Matches, ih, List.mem_cons, exists_eq_or_imp]

end Places

theorem loopsConsume_sequence {parts : List Regex} (h : ∀ part ∈ parts, part.LoopsConsume) :
    (sequence parts).LoopsConsume := by
  induction parts with
  | nil => trivial
  | cons part rest ih =>
    obtain ⟨hpart, hrest⟩ := List.forall_mem_cons.1 h
    cases rest with
    | nil => exact hpart
    | cons second rest => exact ⟨hpart, ih hrest⟩

theorem loopsConsume_choice {branches : List Regex}
    (h : ∀ branch ∈ branches, branch.LoopsConsume) : (choice branches).LoopsConsume := by
  induction branches with
  | nil => trivial
  | cons branch rest ih =>
    obtain ⟨hbranch, hrest⟩ := List.forall_mem_cons.1 h
    cases rest with
    | nil => exact hbranch
    | cons second rest => exact ⟨hbranch, ih hrest⟩

end AppBoundary.Regex
