-- The tables of ends against the meaning of expressions: a table lists the
-- matches of its expression and no others, so a search finds one when there is
-- one.
import AppBoundary.Proofs.Regex.Meaning
import AppBoundary.Regex.Matching
import Mathlib.Logic.Function.Iterate

namespace AppBoundary.Regex

namespace EndTable

/-! ## Tables of a relation -/

/-- The table of a text of this length lists the places that a relation leads to. -/
structure Lists (length : Nat) (table : EndTable) (leads : Nat → Nat → Prop) : Prop where
  size_eq : table.ends.size = length + 1
  mem_iff : ∀ {place}, place ≤ length →
    ∀ {ending}, ending ∈ table.endsFrom place ↔ leads place ending
  inside : ∀ {place ending}, leads place ending → place ≤ length → ending ≤ length

variable {length : Nat} {table first second : EndTable} {leads leads1 leads2 : Nat → Nat → Prop}

/-- A relation may be said in other words. -/
theorem Lists.congr (h : table.Lists length leads1) (heq : ∀ i j, leads1 i j ↔ leads2 i j) :
    table.Lists length leads2 :=
  ⟨h.size_eq, fun hplace _ => (h.mem_iff hplace).trans (heq _ _),
    fun hleads => h.inside ((heq _ _).2 hleads)⟩

/-! ## Places once each -/

/-- The marks up to `n` tell the places seen so far. -/
structure Marked (n : Nat) (state : Array Bool × List Nat) : Prop where
  size_eq : state.1.size = n + 1
  mark_eq : ∀ place ≤ n, state.1[place]? = some (decide (place ∈ state.2))

theorem addEnd_of_seen {n place : Nat} {state : Array Bool × List Nat} (h : Marked n state)
    (hseen : place ∈ state.2 ∨ n < place) : addEnd state place = state := by
  rcases Nat.lt_or_ge n place with hout | hin
  · have := h.size_eq
    simp [addEnd, Array.getElem?_eq_none (show state.1.size ≤ place by omega)]
  · have hmem : place ∈ state.2 := hseen.resolve_right (Nat.not_lt.2 hin)
    simp [addEnd, h.mark_eq place hin, hmem]

theorem addEnd_of_new {n place : Nat} {state : Array Bool × List Nat} (h : Marked n state)
    (hin : place ≤ n) (hnew : place ∉ state.2) :
    addEnd state place = (state.1.setIfInBounds place true, place :: state.2) := by
  simp [addEnd, h.mark_eq place hin, hnew]

theorem marked_addEnd {n : Nat} {state : Array Bool × List Nat} (h : Marked n state) (place : Nat) :
    Marked n (addEnd state place) := by
  by_cases hseen : place ∈ state.2 ∨ n < place
  · rwa [addEnd_of_seen h hseen]
  · obtain ⟨hnew, hin⟩ := not_or.1 hseen
    rw [addEnd_of_new h (Nat.not_lt.1 hin) hnew]
    refine ⟨by simp [h.size_eq], fun other hother => ?_⟩
    simp only [Array.getElem?_setIfInBounds, List.mem_cons]
    have := h.size_eq
    by_cases heq : place = other
    · simp [heq, show other < state.1.size by omega]
    · simp [heq, Ne.symm heq, h.mark_eq other hother]

theorem mem_addEnd {n : Nat} {state : Array Bool × List Nat} (h : Marked n state)
    (place other : Nat) :
    other ∈ (addEnd state place).2 ↔ other ∈ state.2 ∨ other = place ∧ other ≤ n := by
  by_cases hseen : place ∈ state.2 ∨ n < place
  · rw [addEnd_of_seen h hseen]
    constructor
    · exact Or.inl
    · rintro (hmem | ⟨rfl, hin⟩)
      · exact hmem
      · exact hseen.resolve_right (Nat.not_lt.2 hin)
  · obtain ⟨hnew, hin⟩ := not_or.1 hseen
    have hin := Nat.not_lt.1 hin
    rw [addEnd_of_new h hin hnew, List.mem_cons]
    constructor
    · rintro (rfl | hmem)
      · exact Or.inr ⟨rfl, hin⟩
      · exact Or.inl hmem
    · rintro (hmem | ⟨rfl, -⟩)
      · exact Or.inr hmem
      · exact Or.inl rfl

theorem mem_fold_addEnd {n : Nat} {places : List Nat} {state : Array Bool × List Nat}
    (h : Marked n state) (other : Nat) :
    other ∈ (places.foldl addEnd state).2 ↔ other ∈ state.2 ∨ other ∈ places ∧ other ≤ n := by
  induction places generalizing state with
  | nil => simp
  | cons place rest ih =>
    rw [List.foldl_cons, ih (marked_addEnd h place), mem_addEnd h, List.mem_cons, or_assoc,
      or_and_right]

/-- No place has been seen at the start. -/
theorem marked_start (n : Nat) : Marked n (Array.replicate (n + 1) false, []) := by
  refine ⟨by simp, fun other hother => ?_⟩
  simp [Nat.lt_succ_of_le hother]

theorem mem_distinct {places : List Nat} {place : Nat} :
    place ∈ distinct length places ↔ place ∈ places ∧ place ≤ length := by
  rw [distinct, List.mem_reverse, mem_fold_addEnd (marked_start length)]
  simp

/-! ## Parts put together -/

theorem build_lists {f : Nat → List Nat} (hf : ∀ {i j}, i ≤ length → (j ∈ f i ↔ leads i j))
    (hinside : ∀ {i j}, leads i j → i ≤ length → j ≤ length) :
    (build length f).Lists length leads where
  size_eq := by simp [build]
  mem_iff hplace _ := by rw [endsFrom_build f hplace, hf hplace]
  inside := hinside

theorem still_lists : (still length).Lists length fun place ending => ending = place :=
  build_lists (fun _ => List.mem_singleton) fun h hplace => h ▸ hplace

theorem cat_lists (h1 : first.Lists length leads1) (h2 : second.Lists length leads2) :
    (cat length first second).Lists length fun place ending =>
      ∃ next, leads1 place next ∧ leads2 next ending := by
  have hinside : ∀ {i j}, (∃ next, leads1 i next ∧ leads2 next j) → i ≤ length → j ≤ length := by
    rintro i j ⟨next, hn, he⟩ hi
    exact h2.inside he (h1.inside hn hi)
  refine build_lists (fun {i j} hi => ?_) hinside
  rw [mem_distinct, List.mem_flatMap]
  constructor
  · rintro ⟨⟨next, hn, he⟩, -⟩
    have hn := (h1.mem_iff hi).1 hn
    exact ⟨next, hn, (h2.mem_iff (h1.inside hn hi)).1 he⟩
  · rintro ⟨next, hn, he⟩
    exact ⟨⟨next, (h1.mem_iff hi).2 hn, (h2.mem_iff (h1.inside hn hi)).2 he⟩,
      hinside ⟨next, hn, he⟩ hi⟩

theorem alt_lists (h1 : first.Lists length leads1) (h2 : second.Lists length leads2) :
    (alt length first second).Lists length fun place ending =>
      leads1 place ending ∨ leads2 place ending := by
  have hinside : ∀ {i j}, leads1 i j ∨ leads2 i j → i ≤ length → j ≤ length :=
    fun h hi => h.elim (h1.inside · hi) (h2.inside · hi)
  refine build_lists (fun {i j} hi => ?_) hinside
  rw [mem_distinct, List.mem_append, h1.mem_iff hi, h2.mem_iff hi]
  exact ⟨And.left, fun h => ⟨h, hinside h hi⟩⟩

/-- Whether a repetition is greedy moves ends and neither adds nor drops one. -/
theorem orStill_lists (greedy : Bool) (h : table.Lists length leads) :
    (orStill length greedy table).Lists length fun place ending =>
      ending = place ∨ leads place ending := by
  cases greedy
  · exact alt_lists still_lists h
  · exact (alt_lists h still_lists).congr fun _ _ => or_comm

/-! ## Repetition -/

/-- A function that changes nothing may be left out. -/
theorem iterate_eq (f : EndTable → EndTable) (n : Nat) (table : EndTable) :
    iterate f n table = f^[n] table := by
  induction n generalizing table with
  | zero => rfl
  | succ n ih =>
    simp only [iterate]
    split
    · rename_i hfixed
      exact (Function.iterate_fixed hfixed (n + 1)).symm
    · rw [ih, Function.iterate_succ_apply]

theorem power_lists (h : table.Lists length leads) (n : Nat) :
    (power length table n).Lists length (Steps leads n) := by
  simp only [power, iterate_eq]
  induction n with
  | zero => exact still_lists
  | succ n ih =>
    rw [Function.iterate_succ_apply']
    refine (cat_lists ih h).congr fun i j => ?_
    simp only [steps_add, steps_one]

theorem upTo_lists (greedy : Bool) (h : table.Lists length leads) (n : Nat) :
    (upTo length greedy table n).Lists length fun place ending =>
      ∃ k ≤ n, Steps leads k place ending := by
  simp only [upTo, iterate_eq]
  induction n with
  | zero => exact still_lists.congr fun i j => by simp [Steps]
  | succ n ih =>
    rw [Function.iterate_succ_apply']
    refine (orStill_lists greedy (cat_lists h ih)).congr fun i j => ?_
    constructor
    · rintro (rfl | ⟨next, hn, k, hk, hsteps⟩)
      · exact ⟨0, Nat.zero_le _, rfl⟩
      · exact ⟨k + 1, Nat.succ_le_succ hk, next, hn, hsteps⟩
    · rintro ⟨k, hk, hsteps⟩
      cases k with
      | zero => exact Or.inl hsteps
      | succ k =>
        obtain ⟨next, hn, hsteps⟩ := hsteps
        exact Or.inr ⟨next, hn, k, Nat.le_of_succ_le_succ hk, hsteps⟩

theorem length_anyFrom (greedy : Bool) (count : Nat) :
    (anyFrom length greedy table count).length = count := by
  induction count with
  | zero => rfl
  | succ count ih => simp [anyFrom, ih]

/-- The lists of the last places, each of them the ends of any number of steps. The induction goes
from the end of the text to its start, for a step only leads to a later place. -/
theorem mem_anyFrom (greedy : Bool) (h : table.Lists length leads)
    (hlater : ∀ {i j}, leads i j → i < j) {count : Nat} (hcount : count ≤ length + 1) :
    ∀ k < count, ∀ ending, ending ∈ (anyFrom length greedy table count)[k]?.getD [] ↔
      ∃ n, Steps leads n (length + 1 - count + k) ending := by
  induction count with
  | zero => simp
  | succ count ih =>
    have ih := ih (by omega)
    intro k hk ending
    cases k with
    | succ k =>
      rw [show length + 1 - (count + 1) + (k + 1) = length + 1 - count + k by omega,
        ← ih k (by omega) ending]
      simp [anyFrom]
    | zero =>
      have hplace : length - count ≤ length := Nat.sub_le _ _
      have haround : ∀ {next}, leads (length - count) next →
          (ending ∈ (anyFrom length greedy table count)[next - (length - count) - 1]?.getD [] ↔
            ∃ n, Steps leads n next ending) := by
        intro next hn
        have := hlater hn
        have := h.inside hn hplace
        rw [ih _ (by omega) ending,
          show length + 1 - count + (next - (length - count) - 1) = next by omega]
      have hinside : (∃ n, Steps leads n (length - count) ending) → ending ≤ length := by
        rintro ⟨n, hsteps⟩
        exact bound_of_steps (fun _ _ => h.inside) hsteps hplace
      have hmem : (ending = length - count ∨
          ending ∈ (table.endsFrom (length - count)).flatMap fun next =>
            (anyFrom length greedy table count)[next - (length - count) - 1]?.getD []) ↔
          ∃ n, Steps leads n (length - count) ending := by
        rw [exists_steps_iff]
        simp only [List.mem_flatMap, h.mem_iff hplace]
        exact or_congr_right (exists_congr fun next => and_congr_right fun hn => haround hn)
      rw [show length + 1 - (count + 1) + 0 = length - count by omega, ← hmem]
      simp only [anyFrom, List.getElem?_cons_zero, Option.getD_some, mem_distinct]
      rw [← hmem] at hinside
      cases greedy
      · simp only [Bool.false_eq_true, if_false, List.mem_cons]
        exact ⟨And.left, fun hin => ⟨hin, hinside hin⟩⟩
      · simp only [if_true, List.mem_append, List.mem_singleton, or_comm]
        exact ⟨And.left, fun hin => ⟨hin, hinside hin⟩⟩

theorem anyNumber_lists (greedy : Bool) (h : table.Lists length leads)
    (hlater : ∀ {i j}, leads i j → i < j) :
    (anyNumber length greedy table).Lists length fun place ending =>
      ∃ n, Steps leads n place ending where
  size_eq := by simp [anyNumber, length_anyFrom]
  mem_iff {place} hplace ending := by
    have := mem_anyFrom greedy h hlater (Nat.le_refl (length + 1)) place (by omega) ending
    simpa [anyNumber, endsFrom] using this
  inside := by
    rintro place ending ⟨n, hsteps⟩ hplace
    exact bound_of_steps (fun _ _ => h.inside) hsteps hplace

end EndTable

/-! ## The table of an expression -/

/-- The table of an expression lists its matches. The ends from outside play no part where every
unbounded repetition consumes. -/
theorem endTable_lists (text : List Char) (around : Regex → Bool → EndTable) {regex : Regex}
    (h : regex.LoopsConsume) :
    (endTable text.toArray around regex).Lists text.length (regex.Matches text) := by
  induction regex with
  | empty => exact EndTable.still_lists
  | set characters =>
    refine EndTable.build_lists (fun {i j} hi => ?_) matches_inside
    simp only [Matches, List.getElem?_toArray]
    cases text[i]? <;> simp
  | look condition =>
    refine EndTable.build_lists (fun {i j} hi => ?_) matches_inside
    simp only [Matches, List.getElem?_toArray]
    split <;> simp_all
  | cat first second ih1 ih2 => exact EndTable.cat_lists (ih1 h.1) (ih2 h.2)
  | alt first second ih1 ih2 => exact EndTable.alt_lists (ih1 h.1) (ih2 h.2)
  | capture body ih => exact ih h
  | times body least most greedy ih =>
    have hbody := ih h.1
    cases most with
    | some most =>
      refine (EndTable.cat_lists (EndTable.power_lists hbody least)
        (EndTable.upTo_lists greedy hbody (most - least))).congr fun i j => ?_
      simp only [Matches, Option.some.injEq, forall_eq']
      constructor
      · rintro ⟨next, hleast, k, hk, hmore⟩
        exact ⟨least + k, by omega, by omega, steps_add.2 ⟨next, hleast, hmore⟩⟩
      · rintro ⟨n, hn, hlimit, hsteps⟩
        rw [← Nat.add_sub_cancel' hn, steps_add] at hsteps
        obtain ⟨next, hleast, hmore⟩ := hsteps
        exact ⟨next, hleast, n - least, by omega, hmore⟩
    | none =>
      have hconsumes := h.2 rfl
      simp only [endTable, hconsumes, if_true]
      refine (EndTable.cat_lists (EndTable.power_lists hbody least)
        (EndTable.anyNumber_lists greedy hbody (matches_lt hconsumes))).congr fun i j => ?_
      simp only [Matches, reduceCtorEq, false_implies, implies_true, true_and]
      constructor
      · rintro ⟨next, hleast, k, hmore⟩
        exact ⟨least + k, by omega, steps_add.2 ⟨next, hleast, hmore⟩⟩
      · rintro ⟨n, hn, hsteps⟩
        rw [← Nat.add_sub_cancel' hn, steps_add] at hsteps
        obtain ⟨next, hleast, hmore⟩ := hsteps
        exact ⟨next, hleast, n - least, hmore⟩

/-! ## Searches -/

namespace EndTable

variable {table : EndTable}

theorem lt_size_of_endsFrom_ne_nil {place : Nat} (h : table.endsFrom place ≠ []) :
    place < table.ends.size := by
  rcases Nat.lt_or_ge place table.ends.size with hlt | hge
  · exact hlt
  · exact absurd (by simp [endsFrom, Array.getElem?_eq_none hge]) h

theorem hasMatch_iff : table.hasMatch = true ↔ ∃ place, table.endsFrom place ≠ [] := by
  simp only [hasMatch, Array.any_eq_true, Bool.not_eq_true', List.isEmpty_eq_false_iff]
  constructor
  · rintro ⟨place, hlt, h⟩
    exact ⟨place, by simpa [endsFrom, hlt] using h⟩
  · rintro ⟨place, h⟩
    have hlt := lt_size_of_endsFrom_ne_nil h
    exact ⟨place, hlt, by simpa [endsFrom, hlt] using h⟩

/-- Before the first match no match has ended, so an empty one counts too. -/
theorem countFrom_pos_iff {steps place : Nat} (hsteps : table.ends.size ≤ place + steps) :
    0 < table.countFrom steps place none ↔ ∃ later ≥ place, table.endsFrom later ≠ [] := by
  induction steps generalizing place with
  | zero =>
    simp only [countFrom, Nat.lt_irrefl, false_iff]
    rintro ⟨later, hlater, h⟩
    have := lt_size_of_endsFrom_ne_nil h
    omega
  | succ steps ih =>
    unfold countFrom
    split
    · rename_i hsize
      simp only [Nat.lt_irrefl, false_iff]
      rintro ⟨later, hlater, h⟩
      have := lt_size_of_endsFrom_ne_nil h
      omega
    · cases hends : (table.endsFrom place).head? with
      | some ending =>
        have hne : table.endsFrom place ≠ [] := fun hnil => by simp [hnil] at hends
        simp only [reduceCtorEq, and_false, if_false, Nat.zero_lt_succ, true_iff]
        exact ⟨place, Nat.le_refl _, hne⟩
      | none =>
        have hnil : table.endsFrom place = [] := List.head?_eq_none_iff.1 hends
        simp only [ih (show table.ends.size ≤ place + 1 + steps by omega)]
        constructor
        · rintro ⟨later, hlater, h⟩
          exact ⟨later, by omega, h⟩
        · rintro ⟨later, hlater, h⟩
          have : later ≠ place := fun heq => h (heq ▸ hnil)
          exact ⟨later, by omega, h⟩

theorem count_pos_iff : 0 < table.count ↔ table.hasMatch = true := by
  rw [count, countFrom_pos_iff (by omega), hasMatch_iff]
  simp

end EndTable

/-- A search finds a match exactly when the expression has one. -/
theorem isMatch_iff {regex : Regex} (h : regex.LoopsConsume) {text : String} :
    regex.isMatch text = true ↔
      ∃ place ≤ text.toList.length, ∃ ending, regex.Matches text.toList place ending := by
  have hlists := endTable_lists text.toList (emptyLoopTable text.toList.toArray) h
  rw [isMatch, EndTable.hasMatch_iff]
  constructor
  · rintro ⟨place, hne⟩
    have hlt := EndTable.lt_size_of_endsFrom_ne_nil hne
    have hplace : place ≤ text.toList.length := by
      rw [ends, hlists.size_eq] at hlt
      omega
    obtain ⟨ending, hmem⟩ := List.exists_mem_of_ne_nil _ hne
    exact ⟨place, hplace, ending, (hlists.mem_iff hplace).1 hmem⟩
  · rintro ⟨place, hplace, ending, hmatch⟩
    exact ⟨place, List.ne_nil_of_mem ((hlists.mem_iff hplace).2 hmatch)⟩

/-- At least one match is counted exactly when a search finds one. -/
theorem countMatches_pos_iff {regex : Regex} {text : String} :
    0 < regex.countMatches text ↔ regex.isMatch text = true :=
  EndTable.count_pos_iff

end AppBoundary.Regex
