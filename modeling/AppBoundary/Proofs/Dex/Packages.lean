-- The index of a package. It is there when every entry with compiled code can be
-- read, and it is what the entries list, one behind the other by their numbers.
-- The order in which an archive names its entries decides nothing more than the
-- order among entries of one number.
import AppBoundary.Proofs.Census
import AppBoundary.Proofs.Dex.EntryNames
import AppBoundary.Proofs.Dex.Owners
import Mathlib.Data.List.Perm.Basic

namespace AppBoundary.ClassIndex

/-! ## One entry -/

/-- The entry of a name can be read, and it lists an index. -/
def EntryLists (package : Package) (path : Path) (name : String) (index : ClassIndex) : Prop :=
  ∃ bytes, package.contents name = .ok bytes ∧ ofBytes bytes (path.join name) = .ok index

/-- The entry of a name gives no index, for a reason. -/
inductive EntryFails (package : Package) (path : Path) (name : String) : Fault → Prop
  /-- The archive does not open it. -/
  | opening {cause} : package.contents name = .error (.opening cause) →
      EntryFails package path name (.archive path cause)
  /-- Its data is bad. -/
  | reading {cause} : package.contents name = .error (.data cause) →
      EntryFails package path name (.read (path.join name) cause)
  /-- Its contents are no compiled code. -/
  | malformed {bytes cause} : package.contents name = .ok bytes →
      ofBytes bytes (path.join name) = .error (.malformedIndex (path.join name) cause) →
      EntryFails package path name (.malformedIndex (path.join name) cause)

section

variable {package : Package} {path : Path} {name : String} {index : ClassIndex} {fault : Fault}

theorem ofEntry_eq_ok_iff :
    ofEntry package path name = .ok index ↔ EntryLists package path name index := by
  unfold ofEntry EntryLists
  constructor
  · intro h
    split at h
    · exact ⟨_, ‹_›, h⟩
    · cases h
    · cases h
  · rintro ⟨bytes, hbytes, hindex⟩
    rw [hbytes]
    exact hindex

theorem entryFails_of_ofEntry (h : ofEntry package path name = .error fault) :
    EntryFails package path name fault := by
  unfold ofEntry at h
  split at h
  · rename_i bytes hbytes
    rcases ofBytes_eq_ok_or_malformed bytes (path.join name) with ⟨index, hindex⟩ | ⟨cause, hcause⟩
    · rw [hindex] at h
      cases h
    · rw [hcause] at h
      cases h
      exact .malformed hbytes hcause
  · rename_i cause hcause
    cases h
    exact .opening hcause
  · rename_i cause hcause
    cases h
    exact .reading hcause

end

/-! ## A list of entries -/

section

variable {package : Package} {path : Path} {names : List String} {index : ClassIndex} {fault : Fault}

/-- A list of entries is read when each of them is, and the parts stand one behind the other. -/
theorem ofEntries_eq_ok_iff :
    ofEntries package path names = .ok index ↔
      ∃ parts, List.Forall₂ (EntryLists package path) names parts ∧
        index = ⟨parts.flatMap (·.classes), parts.flatMap (·.methods)⟩ := by
  induction names generalizing index with
  | nil =>
    simp only [ofEntries, Except.ok.injEq, List.forall₂_nil_left_iff, exists_eq_left,
      List.flatMap_nil]
    exact eq_comm
  | cons name rest ih =>
    simp only [ofEntries, bind_eq_ok_iff, ofEntry_eq_ok_iff, ih, pure_eq_ok_iff]
    constructor
    · rintro ⟨first, hfirst, others, ⟨parts, hparts, rfl⟩, rfl⟩
      exact ⟨first :: parts, .cons hfirst hparts, rfl⟩
    · rintro ⟨_, hparts, rfl⟩
      cases hparts with
      | cons hfirst hrest => exact ⟨_, hfirst, _, ⟨_, hrest, rfl⟩, rfl⟩

/-- The first entry that gives no index ends the reading with its fault. -/
theorem first_failure_of_ofEntries (h : ofEntries package path names = .error fault) :
    ∃ before name after parts, names = before ++ name :: after ∧
      List.Forall₂ (EntryLists package path) before parts ∧ EntryFails package path name fault := by
  induction names with
  | nil => cases h
  | cons name rest ih =>
    cases hfirst : ofEntry package path name with
    | error cause =>
      rw [ofEntries, hfirst] at h
      cases h
      exact ⟨[], name, rest, [], rfl, .nil, entryFails_of_ofEntry hfirst⟩
    | ok first =>
      cases hrest : ofEntries package path rest with
      | error cause =>
        rw [ofEntries, hfirst, hrest] at h
        cases h
        obtain ⟨before, failing, after, parts, rfl, hparts, hfails⟩ := ih hrest
        exact ⟨name :: before, failing, after, first :: parts, rfl,
          .cons (ofEntry_eq_ok_iff.1 hfirst) hparts, hfails⟩
      | ok others =>
        rw [ofEntries, hfirst, hrest] at h
        cases h

end

/-! ## All entries with compiled code -/

/-- The index is put together from all entries with compiled code, in an order of ascending
numbers. -/
structure ReadFrom (package : Package) (path : Path) (order : List String)
    (parts : List ClassIndex) (index : ClassIndex) : Prop where
  entries : order.Perm (package.names.filter NamesCode)
  ascending : order.Pairwise fun a b => codeOrder a ≤ codeOrder b
  listed : List.Forall₂ (EntryLists package path) order parts
  classes : index.classes = parts.flatMap (·.classes)
  methods : index.methods = parts.flatMap (·.methods)

section

variable {package : Package} {path : Path} {index : ClassIndex} {fault : Fault}

theorem codeEntries_perm (package : Package) :
    (codeEntries package).Perm (package.names.filter NamesCode) := by
  have hnames : isCodeEntry = fun name => decide (NamesCode name) := by
    funext name
    rw [Bool.eq_iff_iff, decide_eq_true_iff, isCodeEntry_iff]
  rw [codeEntries, hnames]
  exact List.mergeSort_perm _ _

theorem pairwise_codeEntries (package : Package) :
    (codeEntries package).Pairwise fun a b => codeOrder a ≤ codeOrder b := by
  have hsorted : (codeEntries package).Pairwise fun a b => decide (codeOrder a ≤ codeOrder b) = true := by
    apply List.pairwise_mergeSort
    · simp only [decide_eq_true_eq]
      exact fun _ _ _ => Nat.le_trans
    · simp only [Bool.or_eq_true, decide_eq_true_eq]
      exact fun a b => Nat.le_total (codeOrder a) (codeOrder b)
  simpa only [decide_eq_true_eq] using hsorted

theorem codeEntries_eq_nil_iff :
    codeEntries package = [] ↔ ¬ ∃ name ∈ package.names, NamesCode name := by
  constructor
  · rintro h ⟨name, hname, hcode⟩
    have hmem : name ∈ codeEntries package :=
      (codeEntries_perm package).mem_iff.2 (by simpa using ⟨hname, hcode⟩)
    rw [h] at hmem
    cases hmem
  · intro h
    apply List.eq_nil_iff_forall_not_mem.2
    intro name hname
    rw [(codeEntries_perm package).mem_iff, List.mem_filter, decide_eq_true_eq] at hname
    exact h ⟨name, hname⟩

theorem ofPackage_eq_ok_iff :
    ofPackage package path = .ok index ↔
      (∃ name ∈ package.names, NamesCode name) ∧
        ofEntries package path (codeEntries package) = .ok index := by
  unfold ofPackage
  by_cases h : codeEntries package = []
  · rw [if_pos (by simp [h])]
    simp only [reduceCtorEq, codeEntries_eq_nil_iff.1 h, false_and]
  · rw [if_neg (by simpa using h)]
    rw [codeEntries_eq_nil_iff, not_not] at h
    simp only [h, true_and]

theorem readFrom_of_ofPackage (h : ofPackage package path = .ok index) :
    ∃ parts, ReadFrom package path (codeEntries package) parts index := by
  obtain ⟨-, hentries⟩ := ofPackage_eq_ok_iff.1 h
  obtain ⟨parts, hparts, rfl⟩ := ofEntries_eq_ok_iff.1 hentries
  exact ⟨parts, codeEntries_perm package, pairwise_codeEntries package, hparts, rfl, rfl⟩

/-- A package has an index when it names compiled code and each entry with such a name lists one. -/
theorem ofPackage_isOk_iff :
    (∃ index, ofPackage package path = .ok index) ↔
      (∃ name ∈ package.names, NamesCode name) ∧
        ∀ name ∈ package.names, NamesCode name → ∃ part, EntryLists package path name part := by
  have hentries : (∃ index, ofEntries package path (codeEntries package) = .ok index) ↔
      ∀ name ∈ package.names, NamesCode name → ∃ part, EntryLists package path name part := by
    simp only [ofEntries_eq_ok_iff]
    rw [exists_comm]
    simp only [exists_and_left, exists_eq, and_true, exists_forall₂_iff,
      (codeEntries_perm package).mem_iff, List.mem_filter, decide_eq_true_eq, and_imp]
  simp only [ofPackage_eq_ok_iff, exists_and_left, hentries]

/-- A package without an index names no compiled code, or an entry fails and every entry in front of
it lists something. -/
theorem failure_of_ofPackage (h : ofPackage package path = .error fault) :
    ((¬ ∃ name ∈ package.names, NamesCode name) ∧ fault = .malformedIndex path .noEntry) ∨
      ∃ before name after parts, codeEntries package = before ++ name :: after ∧
        List.Forall₂ (EntryLists package path) before parts ∧ EntryFails package path name fault := by
  unfold ofPackage at h
  by_cases hnone : codeEntries package = []
  · rw [if_pos (by simp [hnone])] at h
    cases h
    exact Or.inl ⟨codeEntries_eq_nil_iff.1 hnone, rfl⟩
  · rw [if_neg (by simpa using hnone)] at h
    exact Or.inr (first_failure_of_ofEntries h)

end

/-! ## Counts and orders -/

section

variable {package : Package} {path : Path} {order : List String} {parts : List ClassIndex}
  {index : ClassIndex}

/-- The census of a package is the sum of the ones of its entries. -/
theorem ReadFrom.counts (h : ReadFrom package path order parts index) (filter : Filter) :
    filter.countClasses index = total filter.countClasses parts ∧
      filter.countMethods index = total filter.countMethods parts := by
  constructor
  · rw [Filter.countClasses_eq_total, h.classes, total_flatMap]
    rfl
  · rw [Filter.countMethods_eq_total, h.methods, total_flatMap]
    rfl

/-- An archive that names its entries in another order gives the same classes and methods, up to
their order. -/
theorem ofPackage_of_perm {names : List String} (hnames : names.Perm package.names)
    (h : ofPackage package path = .ok index) :
    ∃ other, ofPackage { package with names := names } path = .ok other ∧
      other.classes.Perm index.classes ∧ other.methods.Perm index.methods := by
  obtain ⟨parts, hread⟩ := readFrom_of_ofPackage h
  obtain ⟨⟨name, hname, hcode⟩, -⟩ := ofPackage_eq_ok_iff.1 h
  have horder : (codeEntries { package with names := names }).Perm (codeEntries package) :=
    (codeEntries_perm _).trans ((hnames.filter _).trans (codeEntries_perm package).symm)
  obtain ⟨others, hothers, hparts⟩ := List.perm_comp_forall₂ horder hread.listed
  refine ⟨⟨others.flatMap (·.classes), others.flatMap (·.methods)⟩, ?_, ?_, ?_⟩
  · exact ofPackage_eq_ok_iff.2 ⟨⟨name, hnames.mem_iff.2 hname, hcode⟩,
      ofEntries_eq_ok_iff.2 ⟨others, hothers, rfl⟩⟩
  · rw [hread.classes]
    exact hparts.flatMap_right _
  · rw [hread.methods]
    exact hparts.flatMap_right _

end

/-! ## The law -/

/-- A package has an index exactly when it names compiled code and every entry with such a name can
be read and lists something. The index is then what these entries list, one behind the other by
ascending number, and files numbered without a gap come in the order of their numerals. Archives that
name the same entries in another order give the same classes and methods and the same counts, which
are the sums over the entries. A package without an index has no such entry, or its fault is the one
of an entry that fails, with every entry in front of it read. -/
theorem packages_are_read_whole_and_in_order (package : Package) (path : Path) :
    ((∃ index, ofPackage package path = .ok index) ↔
      (∃ name ∈ package.names, NamesCode name) ∧
        ∀ name ∈ package.names, NamesCode name → ∃ part, EntryLists package path name part) ∧
    (∀ index, ofPackage package path = .ok index →
      ∃ order parts, ReadFrom package path order parts index ∧
        (∀ count < 0x100000000, (package.names.filter NamesCode).Perm (codeNames count) →
          order = codeNames count) ∧
        ∀ filter : Filter,
          filter.countClasses index = total filter.countClasses parts ∧
          filter.countMethods index = total filter.countMethods parts) ∧
    (∀ index names, ofPackage package path = .ok index → names.Perm package.names →
      ∃ other, ofPackage { package with names := names } path = .ok other ∧
        other.classes.Perm index.classes ∧ other.methods.Perm index.methods ∧
        ∀ filter : Filter,
          filter.countClasses other = filter.countClasses index ∧
          filter.countMethods other = filter.countMethods index) ∧
    ∀ fault, ofPackage package path = .error fault →
      ((¬ ∃ name ∈ package.names, NamesCode name) ∧ fault = .malformedIndex path .noEntry) ∨
        ∃ before name after parts,
          (before ++ name :: after).Perm (package.names.filter NamesCode) ∧
          ((before ++ name :: after).Pairwise fun a b => codeOrder a ≤ codeOrder b) ∧
          List.Forall₂ (EntryLists package path) before parts ∧
          EntryFails package path name fault := by
  refine ⟨ofPackage_isOk_iff, fun index h => ?_, fun index names h hnames => ?_, fun fault h => ?_⟩
  · obtain ⟨parts, hread⟩ := readFrom_of_ofPackage h
    refine ⟨_, parts, hread, fun count hcount hnumbered => ?_, hread.counts⟩
    exact eq_codeNames hcount (hread.entries.trans hnumbered) hread.ascending
  · obtain ⟨other, hother, hclasses, hmethods⟩ := ofPackage_of_perm hnames h
    refine ⟨other, hother, hclasses, hmethods, fun filter => ⟨?_, ?_⟩⟩
    · exact total_perm hclasses
    · exact total_perm hmethods
  · refine (failure_of_ofPackage h).imp id ?_
    rintro ⟨before, name, after, parts, horder, hparts, hfails⟩
    refine ⟨before, name, after, parts, ?_, ?_, hparts, hfails⟩
    · exact horder ▸ codeEntries_perm package
    · exact horder ▸ pairwise_codeEntries package

/-! ## A package of two files -/

/-- A file with one class, `LB;`, and no method. -/
def plainFile : ByteArray :=
  ⟨([0x64, 0x65, 0x78, 0x0A, 0x30, 0x33, 0x35, 0x00] ++ List.replicate 48 0
    -- Counts and places of the tables: strings, types, prototypes, fields, methods, classes.
    ++ [1, 0x70, 1, 0x74, 0, 0, 0, 0, 0, 0, 1, 0x78, 0, 0].flatMap smallWord
    -- The place of the string, the string of the type, the class, the string.
    ++ [0x98, 0].flatMap smallWord ++ [0, 0, 0, 0, 0, 0, 0, 0].flatMap smallWord
    ++ [3, 0x4C, 0x42, 0x3B, 0]).toArray⟩

theorem ofBytes_plainFile (path : Path) : ofBytes plainFile path = .ok ⟨["LB;"], []⟩ := by
  have hread : read ⟨plainFile⟩ = .ok ⟨["LB;"], []⟩ := eq_ok_of_toOption (by decide +kernel)
  exact ofBytes_eq_ok_iff.2 hread

/-- A package that names its second file first, and bad data outside of any file. -/
def twoFiles : Package where
  names := ["classes2.dex", "assets/classes.dex", "classes.dex"]
  contents := fun name =>
    if name = "classes.dex" then .ok hyphenatedFile
    else if name = "classes2.dex" then .ok plainFile
    else .error (.data .corruptDeflate)

theorem entryLists_first {path : Path} {part : ClassIndex} :
    EntryLists twoFiles path "classes.dex" part ↔
      part = ⟨["LFoo$-CC;"], ["LFoo$-CC;->run()V"]⟩ := by
  have hread : ofBytes hyphenatedFile (path.join "classes.dex") =
      .ok ⟨["LFoo$-CC;"], ["LFoo$-CC;->run()V"]⟩ :=
    ofBytes_eq_ok_iff.2 (ofBytes_eq_ok_iff.1 ofBytes_hyphenatedFile)
  simp [EntryLists, twoFiles, hread, eq_comm]

theorem entryLists_second {path : Path} {part : ClassIndex} :
    EntryLists twoFiles path "classes2.dex" part ↔ part = ⟨["LB;"], []⟩ := by
  simp [EntryLists, twoFiles, ofBytes_plainFile, eq_comm]

/-- The files of the package are read by their numbers, and the bad data is not looked at. Under
another order of the names the counts are the same. -/
theorem two_files_are_read_by_their_numbers :
    ∃ index, ofPackage twoFiles ⟨"a.apk"⟩ = .ok index ∧ index.classes = ["LFoo$-CC;", "LB;"] ∧
      ∃ other, ofPackage { twoFiles with names := twoFiles.names.reverse } ⟨"a.apk"⟩ = .ok other ∧
        ∀ filter : Filter, filter.countClasses other = filter.countClasses index := by
  obtain ⟨haccepted, hparts, horders, -⟩ := packages_are_read_whole_and_in_order twoFiles ⟨"a.apk"⟩
  have hcode : twoFiles.names.filter NamesCode = ["classes2.dex", "classes.dex"] := by decide
  have hlisted : ∀ name ∈ twoFiles.names, NamesCode name →
      ∃ part, EntryLists twoFiles ⟨"a.apk"⟩ name part := by
    intro name hname hnames
    have hmem : name ∈ twoFiles.names.filter NamesCode :=
      List.mem_filter.2 ⟨hname, decide_eq_true hnames⟩
    rw [hcode] at hmem
    rcases List.mem_pair.1 hmem with rfl | rfl
    · exact ⟨_, entryLists_second.2 rfl⟩
    · exact ⟨_, entryLists_first.2 rfl⟩
  obtain ⟨index, hindex⟩ := haccepted.2 ⟨⟨"classes.dex", by decide, by decide⟩, hlisted⟩
  obtain ⟨order, parts, hread, hnumbered, -⟩ := hparts index hindex
  have horder : order = ["classes.dex", "classes2.dex"] := by
    refine hnumbered 2 (by decide) ?_
    rw [hcode]
    decide
  obtain ⟨other, hother, -, -, hcounts⟩ :=
    horders index twoFiles.names.reverse hindex (List.reverse_perm _)
  refine ⟨index, hindex, ?_, other, hother, fun filter => (hcounts filter).1⟩
  have hboth := hread.listed
  rw [horder, List.forall₂_cons_left_iff] at hboth
  obtain ⟨first, rest, hfirst, hrest, rfl⟩ := hboth
  rw [List.forall₂_cons_left_iff] at hrest
  obtain ⟨second, rest, hsecond, hrest, rfl⟩ := hrest
  rw [List.forall₂_nil_left_iff] at hrest
  rw [hread.classes, entryLists_first.1 hfirst, entryLists_second.1 hsecond, hrest]
  rfl

end AppBoundary.ClassIndex
