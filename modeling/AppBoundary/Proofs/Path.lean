-- Paths cut at their last component. The directory stands in front of it with its
-- separator, and behind it only separators and single dots may trail, which mean the
-- component itself. Cut this way, a path shows what its parts are and what becomes of
-- it under another extension.
import AppBoundary.Path
import AppBoundary.Proofs.Text.Delimiter

namespace AppBoundary.Path

variable {path : Path} {directory name stem old new tail rest : List Char}

/-! ## What trails behind a component -/

/-- Separators, each with at most one dot behind it. -/
inductive Trails : (tail : List Char) → Prop
  | nil : Trails []
  | slash {rest : List Char} : Trails rest → Trails ('/' :: rest)
  | slashDot {rest : List Char} : Trails rest → Trails ('/' :: '.' :: rest)

namespace Trails

theorem append (h : Trails tail) (hrest : Trails rest) : Trails (tail ++ rest) := by
  induction h with
  | nil => exact hrest
  | slash _ ih => exact .slash ih
  | slashDot _ ih => exact .slashDot ih

theorem take (h : Trails tail) (n : Nat) : Trails (tail.take n) := by
  induction h generalizing n with
  | nil => rw [List.take_nil]; exact .nil
  | slash _ ih =>
    cases n with
    | zero => exact .nil
    | succ n => exact .slash (ih n)
  | slashDot _ ih =>
    match n with
    | 0 => exact .nil
    | 1 => exact .slash .nil
    | n + 2 => exact .slashDot (ih n)

theorem eq_slash_or_dot (h : Trails tail) {c : Char} (hc : tail.getLast? = some c) :
    c = '/' ∨ c = '.' := by
  have hall : ∀ c ∈ tail, c = '/' ∨ c = '.' := by
    clear hc
    induction h with
    | nil => simp
    | slash _ ih => simpa using ih
    | slashDot _ ih => simpa using ih
  exact hall c (List.mem_of_getLast? hc)

end Trails

theorem dropTail_reverse_append (h : Trails tail) (text : List Char) :
    dropTail (text ++ tail).reverse = dropTail text.reverse := by
  induction h generalizing text with
  | nil => rw [List.append_nil]
  | @slash rest _ ih =>
    rw [List.append_cons text '/' rest, ih]
    simp [dropTail]
  | @slashDot rest _ ih =>
    have hlist : text ++ '/' :: '.' :: rest = text ++ ['/', '.'] ++ rest := by simp
    rw [hlist, ih]
    simp [dropTail]

theorem exists_trails (text : List Char) :
    ∃ tail, Trails tail ∧ text.reverse = tail.reverse ++ dropTail text.reverse := by
  generalize text.reverse = reversed
  induction reversed using dropTail.induct with
  | case1 rest ih =>
    obtain ⟨tail, htail, hrest⟩ := ih
    refine ⟨tail ++ ['/'], htail.append (.slash .nil), ?_⟩
    rw [dropTail, List.reverse_append]
    simpa using hrest
  | case2 rest ih =>
    obtain ⟨tail, htail, hrest⟩ := ih
    refine ⟨tail ++ ['/', '.'], htail.append (.slashDot .nil), ?_⟩
    rw [dropTail, List.reverse_append]
    simpa using hrest
  | case3 rest hslash hdot => exact ⟨[], .nil, by rw [dropTail.eq_3 _ hslash hdot]; rfl⟩

/-- A name stays, whatever stands in front of it. -/
theorem dropTail_of_name (hslash : '/' ∉ name) (hne : name ≠ []) (hdot : name ≠ ['.'])
    (rest : List Char) : dropTail (name.reverse ++ rest) = name.reverse ++ rest := by
  rw [← List.mem_reverse] at hslash
  rw [← List.reverse_ne_nil_iff] at hne
  replace hdot : name.reverse ≠ ['.'] := fun h => hdot (List.reverse_eq_iff.1 h)
  generalize name.reverse = reversed at *
  match reversed with
  | [c] => exact dropTail.eq_3 _ (by rintro _ ⟨⟩; simp at hslash) (by rintro _ ⟨⟩; simp at hdot)
  | c :: d :: more =>
    exact dropTail.eq_3 _ (by rintro _ ⟨⟩; simp at hslash) (by rintro _ ⟨⟩; simp at hslash)

/-! ## The last component -/

/-- What stands behind the last separator of a text, and all of it where there is none. -/
def lastPiece (text : List Char) : List Char :=
  (text.reverse.takeWhile (· != '/')).reverse

/-- A directory in front of a component: nothing, or a text with its separator. -/
def IsFront (directory : List Char) : Prop :=
  ∀ c ∈ directory.getLast?, c = '/'

theorem takeWhile_front (h : IsFront directory) :
    directory.reverse.takeWhile (· != '/') = [] ∧
      directory.reverse.dropWhile (· != '/') = directory.reverse := by
  rw [IsFront, ← List.head?_reverse] at h
  generalize directory.reverse = reversed at *
  cases reversed with
  | nil => exact ⟨rfl, rfl⟩
  | cons c reversed =>
    obtain rfl := h c rfl
    simp

theorem lastPiece_append (hfront : IsFront directory) (hslash : '/' ∉ name) :
    lastPiece (directory ++ name) = name := by
  rw [lastPiece, List.reverse_append, List.takeWhile_append_of_pos, (takeWhile_front hfront).1]
  · simp
  · exact Text.bne_of_not_mem (by simpa using hslash)

/-- A path is cut into a directory, a last component that is a name, and what trails behind it. -/
structure Cut (path : Path) (directory name tail : List Char) : Prop where
  text_eq : path.text.toList = directory ++ name ++ tail
  front : IsFront directory
  noSlash : '/' ∉ name
  ne_nil : name ≠ []
  ne_dot : name ≠ ['.']
  ne_dots : name ≠ ['.', '.']
  trails : Trails tail

namespace Cut

theorem trimmed (h : Cut path directory name tail) :
    path.trimmed = name.reverse ++ directory.reverse := by
  rw [Path.trimmed, h.text_eq, dropTail_reverse_append h.trails, List.reverse_append,
    dropTail_of_name h.noSlash h.ne_nil h.ne_dot]

theorem fileName? (h : Cut path directory name tail) : path.fileName? = some name := by
  have hname : (path.trimmed.takeWhile (· != '/')).reverse = name := by
    rw [h.trimmed, ← List.reverse_append]
    exact lastPiece_append h.front h.noSlash
  simp only [Path.fileName?, hname, h.ne_nil, h.ne_dot, h.ne_dots, or_self, if_false]

theorem parent (h : Cut path directory name tail) : path.parent = directory := by
  rw [Path.parent, h.trimmed, List.dropWhile_append_of_pos, (takeWhile_front h.front).2,
    List.reverse_reverse]
  exact Text.bne_of_not_mem (by simpa using h.noSlash)

end Cut

/-- A path with a last component is cut at it. -/
theorem exists_cut (h : path.fileName? = some name) :
    ∃ directory tail, Cut path directory name tail := by
  obtain ⟨tail, htail, htext⟩ := exists_trails path.text.toList
  simp only [fileName?] at h
  split at h
  · cases h
  · rename_i hname
    simp only [not_or] at hname
    obtain ⟨hne, hdot, hdots⟩ := hname
    cases h
    refine ⟨path.parent, tail, ?_, ?_, ?_, hne, hdot, hdots, htail⟩
    · rw [parent, ← List.reverse_append, List.takeWhile_append_dropWhile, ← List.reverse_inj, htext]
      simp [trimmed]
    · intro c hc
      rw [parent, List.getLast?_reverse] at hc
      simpa [Option.mem_def.1 hc] using List.head?_dropWhile_not (· != '/') path.trimmed
    · rw [List.mem_reverse]
      exact Text.not_mem_takeWhile

/-! ## Stem and extension -/

theorem splitExtension_append (hstem : stem ≠ []) (hold : '.' ∉ old) :
    splitExtension (stem ++ '.' :: old) = (stem, some old) := by
  have hplain : ∀ c ∈ old.reverse, (c != '.') = true := Text.bne_of_not_mem (by simpa using hold)
  have hreverse : (stem ++ '.' :: old).reverse = old.reverse ++ '.' :: stem.reverse := by simp
  obtain ⟨c, before, hbefore⟩ := List.exists_cons_of_ne_nil (List.reverse_ne_nil_iff.2 hstem)
  rw [splitExtension, hreverse, List.takeWhile_append_of_pos hplain,
    List.dropWhile_append_of_pos hplain]
  simp only [bne_self_eq_false, Bool.false_eq_true, not_false_eq_true, List.dropWhile_cons_of_neg,
    List.takeWhile_cons_of_neg, List.append_nil, List.reverse_reverse, hbefore]
  rw [← hbefore, List.reverse_reverse]

theorem eq_append_of_splitExtension (h : splitExtension name = (stem, some old)) :
    stem ≠ [] ∧ '.' ∉ old ∧ name = stem ++ '.' :: old := by
  by_cases hdot : '.' ∈ name
  · obtain ⟨front, behind, hbehind, rfl⟩ := Text.exists_last_delimiter hdot
    by_cases hfront : front = []
    · subst hfront
      have hplain : ∀ c ∈ behind.reverse, (c != '.') = true :=
        Text.bne_of_not_mem (by simpa using hbehind)
      rw [splitExtension, List.nil_append, List.reverse_cons,
        List.dropWhile_append_of_pos hplain] at h
      simp at h
    · rw [splitExtension_append hfront hbehind] at h
      cases h
      exact ⟨hfront, hbehind, rfl⟩
  · have hnone : name.reverse.dropWhile (· != '.') = [] :=
      List.dropWhile_eq_nil_iff.2 (Text.bne_of_not_mem (by simpa using hdot))
    rw [splitExtension, hnone] at h
    cases h

/-- The last component without its extension. -/
def stem? (path : Path) : Option (List Char) :=
  path.fileName?.map fun name => (splitExtension name).1

theorem exists_cut_of_extension? (h : path.extension? = some old) :
    ∃ directory stem tail, stem ≠ [] ∧ '.' ∉ old ∧ Cut path directory (stem ++ '.' :: old) tail := by
  obtain ⟨name, hname, hold⟩ := Option.bind_eq_some_iff.1 h
  obtain ⟨directory, tail, hcut⟩ := exists_cut hname
  obtain ⟨hstem, hdot, hsplit⟩ := eq_append_of_splitExtension (Prod.ext rfl hold)
  exact ⟨directory, _, tail, hstem, hdot, hsplit ▸ hcut⟩

namespace Cut

variable (h : Cut path directory (stem ++ '.' :: old) tail) (hstem : stem ≠ [])
include h hstem

theorem stem? (hold : '.' ∉ old) : path.stem? = some stem := by
  rw [Path.stem?, h.fileName?, Option.map_some, splitExtension_append hstem hold]

theorem extension? (hold : '.' ∉ old) : path.extension? = some old := by
  rw [Path.extension?, h.fileName?, Option.bind_some, splitExtension_append hstem hold]

theorem setExtension (hold : '.' ∉ old) (extension : String) :
    path.setExtension extension = ⟨String.ofList (directory ++ stem) ++ "." ++ extension⟩ := by
  simp only [Path.setExtension, h.fileName?, h.parent, splitExtension_append hstem hold]

/-- Behind a stem that is no single dot any text without a separator makes a name. -/
theorem replace (hdot : stem ≠ ['.']) (hnew : '/' ∉ new) (hrest : Trails rest) :
    Cut ⟨String.ofList (directory ++ (stem ++ '.' :: new) ++ rest)⟩ directory (stem ++ '.' :: new)
      rest where
  text_eq := String.toList_ofList
  front := h.front
  noSlash := by
    have := h.noSlash
    simp_all
  ne_nil := by simp
  ne_dot := by simp [List.append_eq_singleton_iff, hstem]
  ne_dots := by
    -- Two dots have room for one character in front of the last, and that is a dot as well.
    rcases stem with _ | ⟨c, _ | ⟨d, more⟩⟩
    · exact absurd rfl hstem
    · simp_all
    · simp
  trails := hrest

/-- Only the extension is replaced, and what trails behind the component goes. -/
theorem withExtension (hdot : stem ≠ ['.']) (hold : '.' ∉ old) (extension : String) :
    path.withExtension extension = ⟨String.ofList (directory ++ stem) ++ "." ++ extension⟩ := by
  -- As many characters are taken off as the extension has. The first of them come off what trails
  -- behind the name, so that a start of the extension is left, and a start of the tail behind it.
  have hkept : path.text.toList.take (path.text.toList.length - old.length) =
      directory ++ (stem ++ '.' :: old.take tail.length) ++ tail.take (tail.length - old.length) := by
    have hlength : path.text.toList.length - old.length =
        (directory ++ stem ++ ['.']).length + tail.length := by
      rw [h.text_eq]
      simp
      omega
    have htext : path.text.toList = (directory ++ stem ++ ['.']) ++ (old ++ tail) := by
      rw [h.text_eq]
      simp
    rw [hlength, htext, List.take_length_add_append, List.take_append]
    simp
  have hslash : '/' ∉ old.take tail.length := by
    have := h.noSlash
    exact fun hmem => this (by simp [List.mem_of_mem_take hmem])
  have hcut := h.replace hstem hdot hslash (h.trails.take (tail.length - old.length))
  have hnoDot : '.' ∉ old.take tail.length := fun hmem => hold (List.mem_of_mem_take hmem)
  simp only [Path.withExtension, h.extension? hstem hold]
  rw [hkept, hcut.setExtension hstem hnoDot]

end Cut

end AppBoundary.Path
