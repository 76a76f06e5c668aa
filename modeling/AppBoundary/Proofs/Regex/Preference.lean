-- Preferred ends. Where every place with a match prefers the one that ends with
-- the text, nothing is left to search behind the first match, so a search counts
-- one match at most.
import AppBoundary.Proofs.Regex.Tables

namespace AppBoundary.Regex

namespace EndTable

variable {length : Nat} {table first second : EndTable} {places : List Nat}

/-! ## The first of a list of ends -/

/-- The first end, if there is one, is the end of the text. -/
def PrefersLast (length : Nat) (places : List Nat) : Prop :=
  ∀ ending, places.head? = some ending → ending = length

theorem prefersLast_nil : PrefersLast length [] := by
  intro ending h
  cases h

theorem prefersLast_of_head? (h : places.head? = some length) : PrefersLast length places := by
  intro ending hending
  rw [h, Option.some.injEq] at hending
  exact hending.symm

theorem PrefersLast.append {others : List Nat} (h : PrefersLast length places)
    (hothers : PrefersLast length others) : PrefersLast length (places ++ others) := by
  cases places with
  | nil => exact hothers
  | cons place rest => exact h

theorem prefersLast_flatMap {f : Nat → List Nat} (h : ∀ place, PrefersLast length (f place)) :
    PrefersLast length (places.flatMap f) := by
  induction places with
  | nil => exact prefersLast_nil
  | cons place rest ih =>
    rw [List.flatMap_cons]
    exact (h place).append ih

/-- Ends seen later stand in front of the ones seen before, which stay. -/
theorem suffix_fold_addEnd (places : List Nat) (state : Array Bool × List Nat) :
    state.2 <:+ (places.foldl addEnd state).2 := by
  induction places generalizing state with
  | nil => exact List.suffix_refl _
  | cons place rest ih =>
    have hstep : state.2 <:+ (addEnd state place).2 := by
      unfold addEnd
      split
      · exact List.suffix_refl _
      · exact List.suffix_cons _ _
    exact hstep.trans (ih _)

/-- The first place stays the first one. -/
theorem head?_distinct_cons {place : Nat} (rest : List Nat) (h : place ≤ length) :
    (distinct length (place :: rest)).head? = some place := by
  have hfirst : (addEnd (Array.replicate (length + 1) false, []) place).2 = [place] := by
    rw [addEnd_of_new (marked_start length) h List.not_mem_nil]
  have hsuffix := suffix_fold_addEnd rest
    (addEnd (Array.replicate (length + 1) false, []) place)
  rw [hfirst] at hsuffix
  obtain ⟨later, hlater⟩ := hsuffix
  rw [distinct, List.foldl_cons, ← hlater]
  simp

theorem PrefersLast.distinct (h : PrefersLast length places) :
    PrefersLast length (EndTable.distinct length places) := by
  cases places with
  | nil => exact prefersLast_nil
  | cons place rest =>
    obtain rfl : place = length := h place rfl
    exact prefersLast_of_head? (head?_distinct_cons rest (Nat.le_refl _))

/-! ## Tables that prefer the end of the text -/

/-- From every place the preferred match, if there is one, ends with the text. -/
def RunsOut (length : Nat) (table : EndTable) : Prop :=
  ∀ place, PrefersLast length (table.endsFrom place)

theorem runsOut_build {f : Nat → List Nat} (h : ∀ place ≤ length, PrefersLast length (f place)) :
    RunsOut length (build length f) := by
  intro place
  rcases Nat.lt_or_ge length place with hout | hin
  · have hnil : (build length f).endsFrom place = [] := by
      rw [endsFrom, build, Array.getElem?_eq_none (by simp; omega), Option.getD_none]
    rw [hnil]
    exact prefersLast_nil
  · rw [endsFrom_build f hin]
    exact h place hin

/-- The second of two parts says where a match of both ends. -/
theorem RunsOut.cat (first : EndTable) (h : RunsOut length second) :
    RunsOut length (EndTable.cat length first second) :=
  runsOut_build fun _ _ => (prefersLast_flatMap h).distinct

theorem RunsOut.alt (h1 : RunsOut length first) (h2 : RunsOut length second) :
    RunsOut length (EndTable.alt length first second) :=
  runsOut_build fun place _ => ((h1 place).append (h2 place)).distinct

/-- A greedy repetition of single characters goes on to the end of the text when every character
will do. The induction goes from the end of the text to its start. -/
theorem head?_anyFrom (hstep : ∀ place < length, table.endsFrom place = [place + 1])
    (hlast : table.endsFrom length = []) {count : Nat} (hcount : count ≤ length + 1) :
    ∀ k < count, ((anyFrom length true table count)[k]?.getD []).head? = some length := by
  induction count with
  | zero => simp
  | succ count ih =>
    have ih := ih (by omega)
    intro k hk
    cases k with
    | succ k =>
      simpa [anyFrom] using ih k (by omega)
    | zero =>
      simp only [anyFrom, if_true, List.getElem?_cons_zero, Option.getD_some]
      rcases Nat.eq_zero_or_pos count with rfl | hpos
      · rw [Nat.sub_zero, hlast, List.flatMap_nil, List.nil_append]
        exact head?_distinct_cons [] (Nat.le_refl _)
      · have hlater := ih 0 hpos
        rw [hstep _ (by omega), List.flatMap_singleton,
          show length - count + 1 - (length - count) - 1 = 0 by omega]
        obtain ⟨rest, hrest⟩ := List.head?_eq_some_iff.1 hlater
        rw [hrest, List.cons_append]
        exact head?_distinct_cons _ (Nat.le_refl _)

theorem runsOut_anyNumber (hstep : ∀ place < length, table.endsFrom place = [place + 1])
    (hlast : table.endsFrom length = []) : RunsOut length (anyNumber length true table) := by
  intro place
  rcases Nat.lt_or_ge length place with hout | hin
  · have hnil : (anyNumber length true table).endsFrom place = [] := by
      rw [endsFrom, anyNumber, Array.getElem?_eq_none (by simp [length_anyFrom]; omega),
        Option.getD_none]
    rw [hnil]
    exact prefersLast_nil
  · have hhead := head?_anyFrom hstep hlast (Nat.le_refl (length + 1)) place (by omega)
    apply prefersLast_of_head?
    simpa [endsFrom, anyNumber] using hhead

/-! ## Counting -/

theorem countFrom_outside {place : Nat} (h : table.ends.size ≤ place) (steps : Nat)
    (last : Option Nat) : table.countFrom steps place last = 0 := by
  cases steps with
  | zero => rfl
  | succ steps => rw [countFrom, if_pos h]

/-- Behind a match that ends with the text there is only the empty match there, and it does not
count. -/
theorem countFrom_at_end (hsize : table.ends.size = length + 1) (h : RunsOut length table)
    (steps : Nat) : table.countFrom steps length (some length) = 0 := by
  cases steps with
  | zero => rfl
  | succ steps =>
    have houtside := countFrom_outside (show table.ends.size ≤ length + 1 by omega) steps
    rw [countFrom, if_neg (by omega)]
    cases hends : (table.endsFrom length).head? with
    | none => exact houtside _
    | some ending =>
      obtain rfl : ending = length := h length ending hends
      simp only [and_self, if_true]
      exact houtside _

theorem countFrom_le_one (hsize : table.ends.size = length + 1) (h : RunsOut length table)
    (steps place : Nat) : table.countFrom steps place none ≤ 1 := by
  induction steps generalizing place with
  | zero => exact Nat.zero_le _
  | succ steps ih =>
    unfold countFrom
    split
    · exact Nat.zero_le _
    · cases hends : (table.endsFrom place).head? with
      | none => exact ih (place + 1)
      | some ending =>
        obtain rfl : ending = length := h place ending hends
        simp only [reduceCtorEq, and_false, if_false, countFrom_at_end hsize h, Nat.zero_add,
          Nat.le_refl]

end EndTable

/-! ## Expressions that prefer the end of the text -/

/-- In this text the preferred match from every place ends with the text. -/
def RunsOut (text : List Char) (regex : Regex) : Prop :=
  ∀ around, EndTable.RunsOut text.length (endTable text.toArray around regex)

theorem RunsOut.cat {text : List Char} (first : Regex) {second : Regex} (h : second.RunsOut text) :
    (Regex.cat first second).RunsOut text :=
  fun around => (h around).cat _

theorem RunsOut.alt {text : List Char} {first second : Regex} (h1 : first.RunsOut text)
    (h2 : second.RunsOut text) : (Regex.alt first second).RunsOut text :=
  fun around => (h1 around).alt (h2 around)

theorem sequence_cons_of_ne_nil (part : Regex) {rest : List Regex} (hne : rest ≠ []) :
    sequence (part :: rest) = .cat part (sequence rest) := by
  cases rest with
  | nil => exact absurd rfl hne
  | cons second rest => rfl

/-- The last part of a sequence says where its matches end. -/
theorem runsOut_sequence {text : List Char} {last : Regex} (parts : List Regex)
    (h : last.RunsOut text) : (sequence (parts ++ [last])).RunsOut text := by
  induction parts with
  | nil => exact h
  | cons part rest ih =>
    rw [List.cons_append, sequence_cons_of_ne_nil part (by simp)]
    exact ih.cat part

theorem runsOut_choice {text : List Char} {branches : List Regex} (hne : branches ≠ [])
    (h : ∀ branch ∈ branches, branch.RunsOut text) : (choice branches).RunsOut text := by
  induction branches with
  | nil => exact absurd rfl hne
  | cons branch rest ih =>
    obtain ⟨hbranch, hrest⟩ := List.forall_mem_cons.1 h
    cases rest with
    | nil => exact hbranch
    | cons second rest => exact hbranch.alt (ih (by simp) hrest)

/-- A search for such an expression counts one match or none. -/
theorem countMatches_eq_of_runsOut {regex : Regex} (hloops : regex.LoopsConsume) {text : String}
    (h : regex.RunsOut text.toList) :
    regex.countMatches text = if regex.isMatch text then 1 else 0 := by
  have hsize := (endTable_lists text.toList (emptyLoopTable text.toList.toArray) hloops).size_eq
  have hle : regex.countMatches text ≤ 1 := EndTable.countFrom_le_one hsize (h _) _ 0
  have hpos : 0 < regex.countMatches text ↔ regex.isMatch text = true := countMatches_pos_iff
  split
  · rename_i hmatch
    have := hpos.2 hmatch
    omega
  · rename_i hnone
    have := mt hpos.1 hnone
    omega

end AppBoundary.Regex
