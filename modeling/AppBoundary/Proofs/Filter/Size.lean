-- How large the program of a filter is. Every part of a plain entry adds a
-- bounded size, so entries that are not too long stay below the limit.
import AppBoundary.Proofs.Filter.Glob
import AppBoundary.Proofs.Regex.Trie
import Mathlib.Tactic.SplitIfs

namespace AppBoundary.Filter

open Regex (sequence choice)

/-! ## Parts -/

theorem length_codeBytes_le (code : Nat) : (Regex.codeBytes code).length ≤ 4 := by
  unfold Regex.codeBytes
  split_ifs <;> simp

/-- The most that a part of an entry adds to a program, which is a star read backwards. -/
def partSize : Nat := 1044

theorem size_char_le (backward inChoice : Bool) (c : Char) :
    (Regex.char c).size backward inChoice ≤ partSize := by
  have hset : Regex.setSize backward (.single c) ≤ 128 := by
    have hbytes := length_codeBytes_le (Char.ofNat c.toNat).toNat
    simp only [Regex.setSize, Unicode.CharSet.only?, Unicode.CharSet.single, if_true,
      Regex.stateSize]
    omega
  rw [Regex.char, Regex.size, partSize, Regex.branchSize]
  split_ifs <;> omega

theorem size_dot_le (backward : Bool) : Regex.dot.size backward false ≤ 1000 := by
  cases backward <;> decide +kernel

theorem size_starPart_le (backward inChoice : Bool) :
    starPart.size backward inChoice ≤ partSize := by
  have hdot := size_dot_le backward
  have hconsumes : Regex.dot.consumes = true := rfl
  simp only [starPart, Regex.size, Regex.timesSize, hconsumes, if_true, Regex.stateSize,
    Regex.branchSize, partSize]
  split_ifs <;> omega

theorem size_part_le {afterStar : Bool} {entry : List Char} (backward inChoice : Bool) :
    ∀ part ∈ partsOf afterStar entry, part.size backward inChoice ≤ partSize :=
  forall_mem_partsOf (size_char_le backward inChoice) (size_starPart_le backward inChoice)

theorem length_partsOf_le (afterStar : Bool) (entry : List Char) :
    (partsOf afterStar entry).length ≤ entry.length := by
  induction entry generalizing afterStar with
  | nil => exact Nat.le_refl 0
  | cons c rest ih =>
    rw [partsOf]
    split
    · split
      · exact Nat.le_succ_of_le (ih true)
      · exact Nat.succ_le_succ (ih true)
    · exact Nat.succ_le_succ (ih false)

/-! ## Entries -/

/-- The parts of a sequence add up, and the sequence may be a branch. -/
theorem size_sequence_le {backward inChoice : Bool} {parts : List Regex}
    (h : ∀ inChoice, ∀ part ∈ parts, part.size backward inChoice ≤ partSize) :
    (sequence parts).size backward inChoice ≤
      partSize * parts.length + Regex.stateSize + if inChoice then Regex.branchSize else 0 := by
  match parts with
  | [] => simp [Regex.sequence, Regex.size]
  | [part] =>
    have hpart := h inChoice part List.mem_cons_self
    simp only [Regex.sequence, List.length_singleton]
    omega
  | part :: second :: rest =>
    have hpart := h false part List.mem_cons_self
    have hrest : (sequence (second :: rest)).size backward false ≤ _ :=
      size_sequence_le fun inChoice part hmem => h inChoice part (List.mem_cons_of_mem _ hmem)
    simp only [Bool.false_eq_true, if_false] at hrest
    simp only [Regex.sequence, Regex.size, List.length_cons, Nat.mul_succ] at hrest ⊢
    omega

theorem size_expressionOf_le (backward inChoice : Bool) (entry : String) :
    (expressionOf entry).size backward inChoice ≤ partSize * (entry.length + 1) := by
  have hsize : (expressionOf entry).size backward inChoice ≤ _ :=
    size_sequence_le fun inChoice => size_part_le backward inChoice
  have hlength : (partsOf false entry.toList).length ≤ entry.length :=
    length_partsOf_le false entry.toList
  refine Nat.le_trans hsize ?_
  simp only [partSize, Regex.stateSize, Regex.branchSize]
  split_ifs <;> omega

/-! ## Choices -/

/-- The branches of a choice add up. -/
theorem size_choice_le (backward : Bool) {entries : List String} (hne : entries ≠ []) :
    (choice (entries.map expressionOf)).size backward true ≤
      partSize * total (fun entry => entry.length + 1) entries := by
  match entries with
  | [entry] =>
    have hsize := size_expressionOf_le backward true entry
    simpa [choice] using hsize
  | entry :: second :: others =>
    have hentry := size_expressionOf_le backward true entry
    have hothers : (choice ((second :: others).map expressionOf)).size backward true ≤ _ :=
      size_choice_le backward (List.cons_ne_nil second others)
    rw [total_cons, Nat.mul_add]
    simp only [List.map_cons, choice, Regex.size, if_true] at hothers ⊢
    omega

/-- Only one character is a set of characters. -/
theorem asSet?_expressionOf_eq_none {entry : String} (h : entry.length ≠ 1) :
    (expressionOf entry).asSet? = none := by
  rw [expressionOf]
  rw [← String.length_toList] at h
  match entry.toList, h with
  | [], _ => rfl
  | [c], h => exact absurd rfl h
  | c :: second :: rest, _ =>
    by_cases hstar : c = '*'
    · rw [partsOf, if_pos hstar, if_neg (by decide)]
      cases partsOf true (second :: rest) <;> rfl
    · have hsecond : partsOf false (second :: rest) ≠ [] := by
        simp only [partsOf, Bool.false_eq_true, if_false]
        split <;> simp
      rw [partsOf, if_neg hstar]
      cases hparts : partsOf false (second :: rest) with
      | nil => exact absurd hparts hsecond
      | cons => rfl

theorem asSet?_choice_eq_none {entries : List String} (h : ∃ entry ∈ entries, entry.length ≠ 1) :
    (choice (entries.map expressionOf)).asSet? = none := by
  obtain ⟨entry, hmem, hlength⟩ := h
  induction entries with
  | nil => cases hmem
  | cons first others ih =>
    cases others with
    | nil =>
      obtain rfl : entry = first := List.mem_singleton.1 hmem
      exact asSet?_expressionOf_eq_none hlength
    | cons second others =>
      simp only [List.map_cons, choice, Regex.asSet?]
      rcases List.mem_cons.1 hmem with rfl | hmem
      · rw [asSet?_expressionOf_eq_none hlength, Option.bind_none]
      · have hothers := ih hmem
        simp only [List.map_cons] at hothers
        simp [hothers]

/-! ## Choices among texts -/

/-- Only parts that are characters make a text, each of them up to four bytes of it. -/
theorem length_of_asText?_sequence {parts : List Regex} {bytes : List Nat}
    (hparts : ∀ part ∈ parts, ∀ bytes, part.asText? = some bytes → bytes.length ≤ 4)
    (h : (sequence parts).asText? = some bytes) : bytes.length ≤ 4 * parts.length := by
  induction parts generalizing bytes with
  | nil =>
    rw [Regex.sequence, Regex.asText?, Option.some.injEq] at h
    simp [← h]
  | cons part rest ih =>
    obtain ⟨hpart, hrest⟩ := List.forall_mem_cons.1 hparts
    cases rest with
    | nil => exact hpart bytes h
    | cons second rest =>
      simp only [Regex.sequence, Regex.asText?, Option.bind_eq_some_iff, Option.map_eq_some_iff] at h
      obtain ⟨first, hfirst, others, hothers, rfl⟩ := h
      have hlength := hpart first hfirst
      have hmore := ih hrest hothers
      simp only [List.length_append, List.length_cons] at hmore ⊢
      omega

theorem length_of_asText?_expressionOf {entry : String} {bytes : List Nat}
    (h : (expressionOf entry).asText? = some bytes) : bytes.length ≤ 4 * entry.length := by
  have hchar : ∀ c bytes, (Regex.char c).asText? = some bytes → bytes.length ≤ 4 := by
    intro c bytes hbytes
    simp only [Regex.char, Regex.asText?, Option.map_eq_some_iff] at hbytes
    obtain ⟨d, -, rfl⟩ := hbytes
    exact length_codeBytes_le d.toNat
  have hstar : ∀ bytes, starPart.asText? = some bytes → bytes.length ≤ 4 := by
    intro bytes hbytes
    cases hbytes
  have hbytes := length_of_asText?_sequence (forall_mem_partsOf hchar hstar) h
  have hparts : (partsOf false entry.toList).length ≤ entry.length :=
    length_partsOf_le false entry.toList
  omega

/-- An entry is no choice, so it is at most one text. -/
theorem asTexts?_expressionOf (entry : String) :
    (expressionOf entry).asTexts? =
      ((expressionOf entry).asText?.filter (· ≠ [])).map ([·]) := by
  have hparts : ∀ part ∈ partsOf false entry.toList,
      part.asTexts? = (part.asText?.filter (· ≠ [])).map ([·]) := by
    apply forall_mem_partsOf
    case hchar => exact fun _ => rfl
    case hstar => rfl
  rw [expressionOf]
  match hentry : partsOf false entry.toList, hparts with
  | [], _ => rfl
  | [part], hparts => exact hparts part List.mem_cons_self
  | part :: second :: rest, _ => rfl

/-- What the texts of an entry add to a tree. -/
theorem total_of_asTexts?_expressionOf {entry : String} {texts : List (List Nat)}
    (h : (expressionOf entry).asTexts? = some texts) :
    total (fun text => Regex.Trie.nodeSize * text.length + Regex.branchSize) texts ≤
      partSize * (entry.length + 1) := by
  simp only [asTexts?_expressionOf, Option.map_eq_some_iff, Option.filter_eq_some_iff] at h
  obtain ⟨bytes, ⟨hbytes, -⟩, rfl⟩ := h
  have hlength := length_of_asText?_expressionOf hbytes
  simp only [total_cons, total_nil, Regex.Trie.nodeSize, Regex.stateSize, Regex.branchSize, partSize]
  omega

theorem total_of_asTexts?_choice {entries : List String} {texts : List (List Nat)}
    (hne : entries ≠ []) (h : (choice (entries.map expressionOf)).asTexts? = some texts) :
    total (fun text => Regex.Trie.nodeSize * text.length + Regex.branchSize) texts ≤
      partSize * total (fun entry => entry.length + 1) entries := by
  match entries with
  | [entry] =>
    have htexts : (expressionOf entry).asTexts? = some texts := h
    have hentry := total_of_asTexts?_expressionOf htexts
    simpa using hentry
  | entry :: second :: others =>
    simp only [List.map_cons, choice, Regex.asTexts?, Option.bind_eq_some_iff,
      Option.map_eq_some_iff] at h
    obtain ⟨first, hfirst, rest, hrest, rfl⟩ := h
    have hentry := total_of_asTexts?_expressionOf hfirst
    have hothers := total_of_asTexts?_choice (List.cons_ne_nil second others) hrest
    rw [total_append, total_cons _ entry, Nat.mul_add]
    omega

/-- The fork of a choice stands in front of its branches. -/
theorem size_choice_alone_le (backward : Bool) {entries : List String}
    (h : ∃ entry ∈ entries, entry.length ≠ 1) :
    (choice (entries.map expressionOf)).size backward false ≤
      partSize * total (fun entry => entry.length + 1) entries + 2 * Regex.stateSize := by
  match entries with
  | [] =>
    obtain ⟨entry, hmem, -⟩ := h
    cases hmem
  | [entry] =>
    have hsize := size_expressionOf_le backward false entry
    simp only [List.map_cons, List.map_nil, choice, total_cons, total_nil, Nat.add_zero]
    omega
  | entry :: second :: others =>
    have hne := List.cons_ne_nil entry (second :: others)
    -- Branches that are all sets would come down to one set, whose size is another one.
    have hset := asSet?_choice_eq_none h
    cases htexts : (choice ((entry :: second :: others).map expressionOf)).asTexts? with
    | none =>
      have hbranches := size_choice_le backward hne
      simp only [List.map_cons, choice] at hset htexts hbranches ⊢
      simp only [Regex.size, hset, htexts, if_true, Bool.false_eq_true, if_false] at hbranches ⊢
      omega
    | some texts =>
      have htotal := total_of_asTexts?_choice hne htexts
      have htree := Regex.textsSize_le backward texts
      simp only [List.map_cons, choice] at hset htexts ⊢
      simp only [Regex.size, hset, htexts, Bool.false_eq_true, if_false]
      omega

/-! ## The whole filter -/

/-- The characters that entries may have in all, each entry with one more. -/
def ampleLength : Nat := 10000

/-- Entries that are not all single characters fit as long as they are not too long. -/
theorem fits_of_total_le {entries : List String} (hmany : ∃ entry ∈ entries, entry.length ≠ 1)
    (hlength : total (fun entry => entry.length + 1) entries ≤ ampleLength) :
    Regex.fits (choice (entries.map expressionOf)) = true := by
  have hprogram : ∀ backward,
      (choice (entries.map expressionOf)).programSize backward ≤ Regex.sizeLimit := by
    intro backward
    have hsize := size_choice_alone_le backward hmany
    rw [ampleLength] at hlength
    simp only [Regex.programSize, Regex.stateSize, Regex.stepSize, Regex.sizeLimit, partSize]
      at hsize ⊢
    split_ifs <;> omega
  rw [Regex.fits, decide_eq_true (hprogram false), decide_eq_true (hprogram true), Bool.and_self,
    Bool.or_true]

end AppBoundary.Filter
