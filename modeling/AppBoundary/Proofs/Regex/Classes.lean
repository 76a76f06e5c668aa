-- A class needs its closing bracket. Every reader leaves an end of the text that
-- it was given, so the bracket that closes a class stands in the text behind the
-- one that opens it.
import AppBoundary.Regex.ClassReader
import Mathlib.Data.List.Infix

namespace AppBoundary.Regex

variable {ignoreBlanks : Bool} {cs rest : List Char}

/-! ## Blanks and numbers of characters -/

theorem skipBlanks_suffix (inComment : Bool) (cs : List Char) : skipBlanks inComment cs <:+ cs := by
  induction cs generalizing inComment with
  | nil => exact List.suffix_refl []
  | cons c rest ih =>
    have hskip : ∀ inComment, skipBlanks inComment rest <:+ c :: rest :=
      fun inComment => (ih inComment).trans (List.suffix_cons c rest)
    rw [skipBlanks]
    split
    · exact hskip _
    split
    · exact hskip _
    split
    · exact hskip _
    · exact List.suffix_refl _

theorem skip_suffix (ignoreBlanks : Bool) (cs : List Char) : skip ignoreBlanks cs <:+ cs := by
  cases ignoreBlanks with
  | false => exact List.suffix_refl cs
  | true => exact skipBlanks_suffix false cs

theorem takeSkipping_suffix (ignoreBlanks : Bool) (test : Char → Bool) (n : Nat) (cs : List Char) :
    (takeSkipping ignoreBlanks test n cs).2 <:+ cs := by
  induction n generalizing cs with
  | zero => exact List.suffix_refl cs
  | succ n ih =>
    cases cs with
    | nil => exact List.suffix_refl []
    | cons c rest =>
      rw [takeSkipping]
      split
      · exact ((ih _).trans (skip_suffix ignoreBlanks rest)).trans (List.suffix_cons c rest)
      · exact List.suffix_refl _

theorem takeExactly_suffix {n : Nat} {taken : List Char}
    (h : takeExactly ignoreBlanks n cs = some (taken, rest)) : rest <:+ cs := by
  induction n generalizing cs taken with
  | zero =>
    cases h
    exact List.suffix_refl _
  | succ n ih =>
    rw [takeExactly] at h
    split at h
    · cases h
    · rename_i c behind hskip
      obtain ⟨⟨others, left⟩, hothers, h⟩ := Option.map_eq_some_iff.1 h
      cases h
      have hbehind : c :: behind <:+ cs := hskip ▸ skip_suffix ignoreBlanks cs
      exact (ih hothers).trans ((List.suffix_cons c behind).trans hbehind)

/-! ## Escapes -/

/-- What stands behind the closing brace of a text in braces. -/
theorem suffix_of_braces {test : Char → Bool} {n : Nat} {start text : List Char} {c : Char}
    (hstart : start <:+ cs) (h : takeSkipping ignoreBlanks test n start = (text, c :: rest)) :
    rest <:+ cs := by
  have htake := takeSkipping_suffix ignoreBlanks test n start
  rw [h] at htake
  exact (List.suffix_cons c rest).trans (htake.trans hstart)

theorem readCode_suffix {digits : Nat} {isByte : Bool} {l : Literal}
    (h : readCode ignoreBlanks digits isByte cs = some (l, rest)) : rest <:+ cs := by
  have hskip := skip_suffix ignoreBlanks cs
  unfold readCode at h
  split at h
  · rename_i inner hinner
    rw [hinner] at hskip
    have hstart := (skip_suffix ignoreBlanks inner).trans ((List.suffix_cons _ _).trans hskip)
    simp only at h
    split at h
    · rename_i code behind htake
      obtain ⟨c, -, h⟩ := Option.map_eq_some_iff.1 h
      cases h
      exact suffix_of_braces hstart htake
    · cases h
  · obtain ⟨⟨code, left⟩, htake, h⟩ := Option.bind_eq_some_iff.1 h
    obtain ⟨c, -, h⟩ := Option.map_eq_some_iff.1 h
    cases h
    exact (takeExactly_suffix htake).trans hskip

theorem readProperty_suffix {negated : Bool} {property : Bool × PropertyQuery}
    (h : readProperty ignoreBlanks negated cs = some (property, rest)) : rest <:+ cs := by
  have hskip := skip_suffix ignoreBlanks cs
  unfold readProperty at h
  split at h
  · cases h
  · cases h
  · rename_i inner hinner
    rw [hinner] at hskip
    have hstart := (skip_suffix ignoreBlanks inner).trans ((List.suffix_cons _ _).trans hskip)
    simp only at h
    split at h
    · rename_i text behind htake
      cases h
      exact suffix_of_braces hstart htake
    · cases h
  · rename_i c behind _ _ hbehind
    cases h
    exact (List.suffix_cons c _).trans (hbehind ▸ hskip)

theorem readBoundary_suffix {kind : Assertion}
    (h : readBoundary ignoreBlanks cs = some (kind, rest)) : rest <:+ cs := by
  unfold readBoundary at h
  split at h
  · rename_i inner
    have hskip := (skip_suffix ignoreBlanks inner).trans (List.suffix_cons '{' inner)
    simp only at h
    split at h
    · cases h
    · rename_i c behind hbehind
      rw [hbehind] at hskip
      split at h
      · split at h
        · rename_i name left htake
          obtain ⟨found, -, h⟩ := Option.map_eq_some_iff.1 h
          cases h
          exact suffix_of_braces hskip htake
        · cases h
      · cases h
        exact List.suffix_refl _
  · cases h
    exact List.suffix_refl _

theorem readEscape_suffix {escape : Escape}
    (h : readEscape ignoreBlanks cs = some (escape, rest)) : rest <:+ cs := by
  cases cs with
  | nil => cases h
  | cons c behind =>
    refine List.IsSuffix.trans ?_ (List.suffix_cons c behind)
    rw [readEscape] at h
    split at h
    · obtain ⟨⟨l, left⟩, hread, h⟩ := Option.map_eq_some_iff.1 h
      cases h
      exact readCode_suffix hread
    split at h
    · obtain ⟨⟨l, left⟩, hread, h⟩ := Option.map_eq_some_iff.1 h
      cases h
      exact readCode_suffix hread
    split at h
    · obtain ⟨⟨l, left⟩, hread, h⟩ := Option.map_eq_some_iff.1 h
      cases h
      exact readCode_suffix hread
    split at h
    · obtain ⟨⟨⟨negated, query⟩, left⟩, hread, h⟩ := Option.map_eq_some_iff.1 h
      cases h
      exact readProperty_suffix hread
    split at h
    · obtain ⟨⟨kind, left⟩, hread, h⟩ := Option.map_eq_some_iff.1 h
      cases h
      exact readBoundary_suffix hread
    split at h
    · cases h
      exact List.suffix_refl _
    · split at h <;> cases h <;> exact List.suffix_refl _

/-! ## Items of a class -/

theorem readClassAtom_suffix {escape : Escape}
    (h : readClassAtom ignoreBlanks cs = some (escape, rest)) : rest <:+ cs := by
  unfold readClassAtom at h
  split at h
  · cases h
  · exact (readEscape_suffix h).trans (List.suffix_cons _ _)
  · cases h
    exact List.suffix_cons _ _

theorem readClassItem_suffix {item : ClassTree}
    (h : readClassItem ignoreBlanks cs = some (item, rest)) : rest <:+ cs := by
  obtain ⟨⟨first, behind⟩, hfirst, h⟩ := Option.bind_eq_some_iff.1 h
  have hskip := (skip_suffix ignoreBlanks behind).trans (readClassAtom_suffix hfirst)
  simp only at h
  split at h
  · cases h
  · rename_i tail htail
    rw [htail] at hskip
    split at h
    · obtain ⟨item, -, h⟩ := Option.map_eq_some_iff.1 h
      cases h
      exact hskip
    · obtain ⟨⟨last, left⟩, hlast, h⟩ := Option.bind_eq_some_iff.1 h
      obtain ⟨low, -, h⟩ := Option.bind_eq_some_iff.1 h
      obtain ⟨high, -, h⟩ := Option.bind_eq_some_iff.1 h
      simp only at h
      split at h
      · cases h
        have htail := (skip_suffix ignoreBlanks tail).trans ((List.suffix_cons _ _).trans hskip)
        exact (readClassAtom_suffix hlast).trans htail
      · cases h
  · obtain ⟨item, -, h⟩ := Option.map_eq_some_iff.1 h
    cases h
    exact hskip

theorem readHyphens_suffix (ignoreBlanks : Bool) (n : Nat) (cs : List Char) :
    (readHyphens ignoreBlanks n cs).2 <:+ cs := by
  induction n generalizing cs with
  | zero => exact List.suffix_refl cs
  | succ n ih =>
    by_cases hhyphen : ∃ rest, cs = '-' :: rest
    · obtain ⟨rest, rfl⟩ := hhyphen
      exact ((ih _).trans (skip_suffix ignoreBlanks rest)).trans (List.suffix_cons _ _)
    · have hnone : readHyphens ignoreBlanks (n + 1) cs = ([], cs) := by
        rw [readHyphens]
        exact fun _ rest _ hcs => hhyphen ⟨rest, hcs⟩
      rw [hnone]

/-- The sign of a class is no part of what follows. -/
theorem suffix_of_sign {negated : Bool} (h : (match skip ignoreBlanks cs with
      | '^' :: rest => (true, skip ignoreBlanks rest)
      | cs => (false, cs)) = (negated, rest)) : rest <:+ cs := by
  have hskip := skip_suffix ignoreBlanks cs
  split at h
  · rename_i behind hbehind
    cases h
    rw [hbehind] at hskip
    exact (skip_suffix ignoreBlanks behind).trans ((List.suffix_cons _ _).trans hskip)
  · cases h
    exact hskip

theorem openClass_suffix {negated : Bool} {items : List ClassTree}
    (h : openClass ignoreBlanks cs = some (negated, items, rest)) : rest <:+ cs := by
  unfold openClass at h
  split at h
  rename_i sign inner hsign
  have hinner := suffix_of_sign hsign
  have hhyphens := readHyphens_suffix ignoreBlanks inner.length inner
  split at h
  · cases h
  · rename_i behind hread
    rw [hread] at hhyphens
    have hskip := (skip_suffix ignoreBlanks behind).trans
      ((List.suffix_cons _ _).trans (hhyphens.trans hinner))
    split at h
    · cases h
    · cases h
      exact hskip
  · rename_i hread
    cases h
    rw [hread] at hhyphens
    exact hhyphens.trans hinner

theorem readAsciiClass?_suffix {item : ClassTree}
    (h : readAsciiClass? cs = some (item, rest)) : rest <:+ cs := by
  unfold readAsciiClass? at h
  split at h
  · rename_i behind
    refine List.IsSuffix.trans ?_ (List.suffix_cons ':' behind)
    split at h
    rename_i negated inner hsign
    have hinner : inner <:+ behind := by
      split at hsign
      · cases hsign
        exact List.suffix_cons _ _
      · cases hsign
        exact List.suffix_refl _
    have hname := (List.dropWhile_suffix (· != ':')).trans hinner
    split at h
    · rename_i after hafter
      obtain ⟨ranges, -, h⟩ := Option.map_eq_some_iff.1 h
      cases h
      rw [hafter] at hname
      exact ((List.suffix_cons _ _).trans (List.suffix_cons _ _)).trans hname
    · cases h
  · cases h

theorem operation?_suffix {op : SetOperation} (h : operation? cs = some (op, rest)) :
    rest <:+ cs := by
  unfold operation? at h
  split at h <;> cases h <;> exact (List.suffix_cons _ _).trans (List.suffix_cons _ _)

/-! ## Brackets -/

/-- Without a closing bracket in the text the class does not end. -/
theorem readClassRest_eq_none {n : Nat} {frames : List ClassFrame} {items : List ClassTree}
    (h : ']' ∉ cs) : readClassRest ignoreBlanks n frames items cs = none := by
  induction n generalizing frames items cs with
  | zero => rfl
  | succ n ih =>
    have hrest : ∀ {rest}, rest <:+ skip ignoreBlanks cs → ']' ∉ rest :=
      fun hsuffix hmem => h ((hsuffix.trans (skip_suffix ignoreBlanks cs)).subset hmem)
    simp only [readClassRest]
    split
    · rename_i op rest hop
      exact ih (hrest (operation?_suffix hop))
    split
    · rfl
    · rename_i rest hskip
      have hbehind : rest <:+ skip ignoreBlanks cs := hskip ▸ List.suffix_cons '[' rest
      split
      · rename_i item left hread
        exact ih (hrest ((readAsciiClass?_suffix hread).trans hbehind))
      split
      · rfl
      · rename_i negated inner left hopen
        exact ih (hrest ((openClass_suffix hopen).trans hbehind))
    · rename_i rest hskip
      exact absurd (hskip ▸ List.mem_cons_self) (hrest (List.suffix_refl _))
    · split
      · rfl
      · rename_i item left hread
        exact ih (hrest (readClassItem_suffix hread))

/-- The bracket that closes a class stands behind the one that opens it. -/
theorem readClass_eq_none (h : ']' ∉ cs) : readClass ignoreBlanks cs = none := by
  unfold readClass
  split
  · rfl
  · rename_i negated items rest hopen
    exact readClassRest_eq_none fun hmem => h ((openClass_suffix hopen).subset hmem)

end AppBoundary.Regex
