-- How large the tree of a list of texts is. A text adds no more than a node for
-- each of its bytes, whatever texts the tree holds already.
import AppBoundary.Proofs.Census
import AppBoundary.Regex.Size

namespace AppBoundary.Regex

namespace Trie

variable {ways byte first : Nat} {below others earlier : Trie}

/-! ## Parts of a tree -/

theorem branchesSize_branch :
    (branch byte below others).branchesSize ways = below.size + others.branchesSize (ways + 1) :=
  rfl

theorem branchesSize_stop :
    (stop earlier).branchesSize ways = waysSize ways + branchSize + earlier.branchesSize 0 :=
  rfl

theorem size_branch :
    (branch byte below others).size =
      stateSize + (below.size + others.branchesSize 1) :=
  rfl

/-- One way more needs no more than a state of its own. -/
theorem waysSize_succ_le (ways : Nat) :
    waysSize (ways + 1) ≤ waysSize ways + (stateSize + branchSize) := by
  match ways with
  | 0 => exact Nat.le_of_eq rfl
  | 1 => decide
  | ways + 2 =>
    simp only [waysSize, stateSize, branchSize, stepSize]
    omega

/-! ## One text more -/

/-- The size of a node with one way on. -/
def nodeSize : Nat := 2 * stateSize + branchSize

theorem size_ofText (text : List Nat) : (ofText text).size = nodeSize * text.length := by
  induction text with
  | nil => rfl
  | cons byte rest ih =>
    rw [ofText, size_branch, ih, List.length_cons]
    simp only [branchesSize, waysSize, nodeSize, stateSize, branchSize]
    omega

/-- A mark at a node adds a branch to the end. -/
theorem size_add_nil_le (trie : Trie) : (trie.add []).size ≤ trie.size + branchSize := by
  match trie with
  | .nothing => exact Nat.zero_le _
  | .stop .nothing => exact Nat.zero_le _
  | .stop (.stop _) | .stop (.branch _ _ _) | .branch _ _ _ =>
    simp only [add, size, isEnd, branchesSize_stop, waysSize, Bool.false_eq_true, if_false]
    omega

/-- A node has a way on behind it once a text that is not empty is added. -/
theorem size_add_cons (trie : Trie) (first : Nat) (rest : List Nat) :
    (trie.add (first :: rest)).size = stateSize + (trie.add (first :: rest)).branchesSize 0 := by
  match trie with
  | .nothing | .stop _ =>
    rw [add]
    rfl
  | .branch byte below others =>
    rw [add]
    split <;> rfl

/-- Behind a mark a text shares nothing. -/
theorem branchesSize_add_stop_le (earlier : Trie) (ways first : Nat) (rest : List Nat) :
    ((stop earlier).add (first :: rest)).branchesSize ways ≤
      (stop earlier).branchesSize ways + nodeSize * rest.length + (stateSize + branchSize) := by
  have hways := waysSize_succ_le ways
  simp only [add, branchesSize_branch, branchesSize_stop, size_ofText]
  omega

theorem size_add_stop_le (earlier : Trie) (first : Nat) (rest : List Nat) :
    ((stop earlier).add (first :: rest)).size ≤
      (stop earlier).size + nodeSize * (rest.length + 1) + branchSize := by
  have hbranches := branchesSize_add_stop_le earlier 0 first rest
  rw [size_add_cons]
  cases earlier with
  | nothing =>
    simp only [branchesSize, waysSize, nodeSize, stateSize, branchSize] at hbranches ⊢
    omega
  | stop _ | branch _ _ _ =>
    simp only [size, isEnd, nodeSize, stateSize, branchSize, Bool.false_eq_true, if_false]
      at hbranches ⊢
    omega

/-- A text adds its nodes to the ways on from a node and to the node itself, which may be marked as
well. -/
theorem size_add_le (trie : Trie) :
    (∀ text, (trie.add text).size ≤ trie.size + nodeSize * text.length + branchSize) ∧
    ∀ ways first rest, (trie.add (first :: rest)).branchesSize ways ≤
      trie.branchesSize ways + nodeSize * (rest.length + 1) := by
  -- A way that the text shares is followed into the node behind it, so the induction is on nodes and
  -- ways together.
  induction trie with
  | nothing =>
    constructor
    · intro text
      rw [add, size_ofText]
      omega
    · intro ways first rest
      have hways := waysSize_succ_le ways
      simp only [add, ofText, branchesSize_branch, branchesSize, size_ofText, nodeSize, stateSize,
        branchSize] at hways ⊢
      omega
  | stop earlier _ =>
    constructor
    · rintro (_ | ⟨first, rest⟩)
      · exact size_add_nil_le _
      · exact size_add_stop_le earlier first rest
    · intro ways first rest
      have hbranches := branchesSize_add_stop_le earlier ways first rest
      simp only [nodeSize, stateSize, branchSize] at hbranches ⊢
      omega
  | branch byte below others ihbelow ihothers =>
    have hbranches : ∀ ways first rest,
        ((branch byte below others).add (first :: rest)).branchesSize ways ≤
          (branch byte below others).branchesSize ways + nodeSize * (rest.length + 1) := by
      intro ways first rest
      rw [add]
      split
      · have hbelow := ihbelow.1 rest
        simp only [branchesSize_branch, nodeSize, stateSize, branchSize] at hbelow ⊢
        omega
      · have hothers := ihothers.2 (ways + 1) first rest
        simp only [branchesSize_branch]
        omega
    refine ⟨?_, hbranches⟩
    rintro (_ | ⟨first, rest⟩)
    · exact size_add_nil_le _
    · have hnode := hbranches 0 first rest
      have hbefore : (branch byte below others).size =
          stateSize + (branch byte below others).branchesSize 0 := rfl
      rw [size_add_cons, hbefore, List.length_cons]
      omega

/-! ## All texts -/

/-- Every text of a list adds its nodes and a mark. -/
theorem size_foldl_add_le (texts : List (List Nat)) (trie : Trie) :
    (texts.foldl add trie).size ≤
      trie.size + total (fun text => nodeSize * text.length + branchSize) texts := by
  induction texts generalizing trie with
  | nil => exact Nat.le_refl _
  | cons text others ih =>
    have hstep := (size_add_le trie).1 text
    have hrest := ih (trie.add text)
    rw [List.foldl_cons, total_cons]
    omega

end Trie

/-- The tree of a choice holds each text with its bytes in order or in reverse. -/
theorem textsSize_le (backward : Bool) (texts : List (List Nat)) :
    textsSize backward texts ≤
      total (fun text => Trie.nodeSize * text.length + branchSize) texts + stateSize := by
  have hforward := Trie.size_foldl_add_le texts .nothing
  have hbackward := Trie.size_foldl_add_le (texts.map List.reverse) .nothing
  have hreverse : total (fun text => Trie.nodeSize * text.length + branchSize)
      (texts.map List.reverse) =
      total (fun text => Trie.nodeSize * text.length + branchSize) texts := by
    simp [total, Function.comp_def]
  have hnothing : Trie.nothing.size = 0 := rfl
  rw [hreverse] at hbackward
  rw [textsSize, Trie.ofTexts]
  split <;> omega

end AppBoundary.Regex
