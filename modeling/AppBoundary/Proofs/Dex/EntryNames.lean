-- The names of entries with compiled code, and the numbers they are ordered by.
-- The names that a build gives to its files are numbered as written, the first
-- one without a numeral.
import AppBoundary.Dex.Package
import AppBoundary.Proofs.Text.Numeral

namespace AppBoundary

/-! ## Entries with compiled code -/

/-- A name of an entry with compiled code: it lies in no directory, begins with `classes` and ends
with `.dex`. -/
def NamesCode (name : String) : Prop :=
  '/' ∉ name.toList ∧ (∃ rest, name = "classes" ++ rest) ∧ ∃ front, name = front ++ ".dex"

theorem isCodeEntry_iff {name : String} : isCodeEntry name = true ↔ NamesCode name := by
  have hstart : codeStart <+: name.toList ↔ ∃ rest, name = "classes" ++ rest := by
    constructor
    · rintro ⟨rest, h⟩
      exact ⟨String.ofList rest, String.toList_inj.1 (by rw [← h]; simp [codeStart])⟩
    · rintro ⟨rest, rfl⟩
      exact ⟨rest.toList, by simp [codeStart]⟩
  have hend : codeEnd <:+ name.toList ↔ ∃ front, name = front ++ ".dex" := by
    constructor
    · rintro ⟨front, h⟩
      exact ⟨String.ofList front, String.toList_inj.1 (by rw [← h]; simp [codeEnd])⟩
    · rintro ⟨front, rfl⟩
      exact ⟨front.toList, by simp [codeEnd]⟩
  simp only [isCodeEntry, NamesCode, Bool.and_eq_true, Bool.not_eq_true', List.contains_eq_mem,
    decide_eq_false_iff_not, List.isPrefixOf_iff_prefix, List.isSuffixOf_iff_suffix, hstart, hend,
    and_assoc]

instance : DecidablePred NamesCode :=
  fun name => decidable_of_iff (isCodeEntry name = true) isCodeEntry_iff

/-! ## Starts taken off -/

theorem dropStarts_of_not_prefix {start cs : List Char} (h : ¬ start <+: cs) (n : Nat) :
    dropStarts start n cs = cs := by
  cases n with
  | zero => rfl
  | succ n => rw [dropStarts, if_neg (by rwa [List.isPrefixOf_iff_prefix])]

/-- A start that stands once is taken off. -/
theorem dropStarts_append {start cs : List Char} (h : ¬ start <+: cs) {n : Nat} (hn : 0 < n) :
    dropStarts start n (start ++ cs) = cs := by
  obtain ⟨n, rfl⟩ : ∃ k, n = k + 1 := ⟨n - 1, by omega⟩
  have hprefix : start.isPrefixOf (start ++ cs) = true := by simp
  rw [dropStarts, if_pos hprefix, List.drop_left, dropStarts_of_not_prefix h]

/-! ## Numbers of names -/

/-- The name of the file of a given number, as builds give it. -/
def codeName (number : Nat) : String :=
  if number = 1 then "classes.dex" else "classes" ++ Text.decimal number ++ ".dex"

/-- The names of so many files. -/
def codeNames (count : Nat) : List String :=
  (List.range count).map fun i => codeName (i + 1)

/-- What stands between the start and the end of a name, if only digits do, decides its number. -/
theorem codeOrder_of_digits {name : String} {digits : List Char}
    (hname : name.toList = codeStart ++ (digits ++ codeEnd))
    (hdigits : ∀ c ∈ digits, c.isDigit = true) :
    codeOrder name = (Text.word? (String.ofList digits)).getD 1 := by
  have hstart : ¬ codeStart <+: digits ++ codeEnd := by
    rintro ⟨rest, h⟩
    cases digits with
    | nil => simp [codeStart, codeEnd] at h
    | cons c digits =>
      simp only [codeStart, List.cons_append, List.cons.injEq] at h
      exact absurd (hdigits c List.mem_cons_self) (h.1 ▸ by decide)
  have hend : ¬ codeEnd.reverse <+: digits.reverse := by
    rintro ⟨rest, h⟩
    have hlast : 'x' ∈ digits := by
      rw [← List.mem_reverse, ← h]
      simp [codeEnd]
    exact absurd (hdigits 'x' hlast) (by decide)
  have htail : dropStarts codeStart name.toList.length name.toList = digits ++ codeEnd := by
    rw [hname]
    exact dropStarts_append hstart (by simp [codeStart])
  have hmiddle : dropStarts codeEnd.reverse (digits ++ codeEnd).length (digits ++ codeEnd).reverse =
      digits.reverse := by
    rw [List.reverse_append]
    exact dropStarts_append hend (by simp [codeEnd])
  rw [codeOrder]
  simp only [htail, hmiddle, List.reverse_reverse]

theorem codeOrder_codeName {number : Nat} (hpos : 0 < number) (h : number < Text.wordLimit) :
    codeOrder (codeName number) = number := by
  by_cases hone : number = 1
  · subst hone
    have hname : "classes.dex".toList = codeStart ++ ([] ++ codeEnd) := by
      simp [codeStart, codeEnd]
    have hempty : codeOrder "classes.dex" = (Text.word? (String.ofList [])).getD 1 :=
      codeOrder_of_digits hname (by simp)
    rw [codeName, if_pos rfl, hempty]
    rfl
  · have hname : (codeName number).toList =
        codeStart ++ ((Text.decimal number).toList ++ codeEnd) := by
      simp [codeName, hone, codeStart, codeEnd]
    rw [codeOrder_of_digits hname Text.isDigit_of_mem_decimal, String.ofList_toList,
      Text.word?_decimal h, Option.getD_some]

/-- The names of files stand in the order of their numbers, which are all different. -/
theorem pairwise_codeNames {count : Nat} (h : count < Text.wordLimit) :
    (codeNames count).Pairwise fun a b => codeOrder a < codeOrder b := by
  rw [codeNames, List.pairwise_map]
  refine List.pairwise_lt_range.imp_of_mem fun ha hb hab => ?_
  rw [List.mem_range] at ha hb
  rw [codeOrder_codeName (by omega) (by omega), codeOrder_codeName (by omega) (by omega)]
  omega

/-- Names in ascending order that are all the names of so many files are these names in their
order. -/
theorem eq_codeNames {order : List String} {count : Nat} (h : count < Text.wordLimit)
    (hnames : order.Perm (codeNames count))
    (hascending : order.Pairwise fun a b => codeOrder a ≤ codeOrder b) : order = codeNames count := by
  have hstrict := pairwise_codeNames h
  have hinjective : ∀ a ∈ codeNames count, ∀ b ∈ codeNames count, codeOrder a = codeOrder b → a = b := by
    intro a ha b hb hab
    simp only [codeNames, List.mem_map, List.mem_range] at ha hb
    obtain ⟨i, hi, rfl⟩ := ha
    obtain ⟨j, hj, rfl⟩ := hb
    rw [codeOrder_codeName (by omega) (by omega), codeOrder_codeName (by omega) (by omega)] at hab
    rw [hab]
  refine List.Perm.eq_of_pairwise (fun a b ha hb hab hba => ?_) hascending
    (hstrict.imp Nat.le_of_lt) hnames
  exact hinjective a (hnames.mem_iff.1 ha) b hb (Nat.le_antisymm hab hba)

end AppBoundary
