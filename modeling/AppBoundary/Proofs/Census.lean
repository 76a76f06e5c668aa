-- Totals as the census takes them: the counts of all items of a list, added up.
import AppBoundary.Census

namespace AppBoundary

variable {α : Type}

/-! ## Totals -/

/-- The counts of the items of a list, added up. -/
def total (count : α → Nat) (items : List α) : Nat :=
  (items.map count).foldr (· + ·) 0

@[simp]
theorem total_nil (count : α → Nat) : total count [] = 0 := rfl

@[simp]
theorem total_cons (count : α → Nat) (item : α) (rest : List α) :
    total count (item :: rest) = count item + total count rest := rfl

/-- Where each item with a property counts at least once, the total is at least the number of
such items. -/
theorem countP_le_total {p : α → Bool} {count : α → Nat} (h : ∀ item, p item = true → 1 ≤ count item)
    (items : List α) : items.countP p ≤ total count items := by
  induction items with
  | nil => exact Nat.le_refl _
  | cons item rest ih =>
    rw [total_cons]
    by_cases hitem : p item = true
    · have := h item hitem
      rw [List.countP_cons_of_pos hitem]
      omega
    · rw [List.countP_cons_of_neg hitem]
      omega

/-- Where each item counts once or not at all, the total is the number of those that do. -/
theorem total_eq_countP {p : α → Bool} {count : α → Nat} {items : List α}
    (h : ∀ item ∈ items, count item = if p item then 1 else 0) : total count items = items.countP p := by
  induction items with
  | nil => rfl
  | cons item rest ih =>
    obtain ⟨hitem, hrest⟩ := List.forall_mem_cons.1 h
    rw [total_cons, List.countP_cons, ih hrest, hitem, Nat.add_comm]

theorem total_eq_zero_iff {count : α → Nat} {items : List α} :
    total count items = 0 ↔ ∀ item ∈ items, count item = 0 := by
  induction items with
  | nil => simp
  | cons item rest ih => simp [ih]

theorem total_congr {count1 count2 : α → Nat} {items : List α}
    (h : ∀ item ∈ items, count1 item = count2 item) : total count1 items = total count2 items := by
  rw [total, total, List.map_congr_left h]

theorem total_append (count : α → Nat) (first second : List α) :
    total count (first ++ second) = total count first + total count second := by
  induction first with
  | nil => simp
  | cons item rest ih => rw [List.cons_append, total_cons, total_cons, ih, Nat.add_assoc]

/-- The total over the items of many lists is the total of the totals. -/
theorem total_flatMap {β : Type} (count : β → Nat) (listOf : α → List β) (items : List α) :
    total count (items.flatMap listOf) = total (fun item => total count (listOf item)) items := by
  induction items with
  | nil => rfl
  | cons item rest ih => rw [List.flatMap_cons, total_append, total_cons, ih]

/-- The order of the items plays no part in their total. -/
theorem total_perm {count : α → Nat} {first second : List α} (h : first.Perm second) :
    total count first = total count second := by
  induction h with
  | nil => rfl
  | cons item _ ih => rw [total_cons, total_cons, ih]
  | swap first second rest => simp only [total_cons, Nat.add_left_comm]
  | trans _ _ ih1 ih2 => exact ih1.trans ih2

/-! ## The census -/

theorem Filter.countClasses_eq_total (filter : Filter) (index : ClassIndex) :
    filter.countClasses index = total filter.countClass index.classes := rfl

theorem Filter.countMethods_eq_total (filter : Filter) (index : ClassIndex) :
    filter.countMethods index = total filter.countMethod index.methods := rfl

end AppBoundary
