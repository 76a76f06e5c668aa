-- Installed platforms, told from a listing of their directory. Their levels stand
-- in ascending order, each as often as entries of the listing give it, whatever
-- the order of the listing and whatever else stands in it. The level of a run is
-- the highest of them, and without any no setup of a run is made.
import AppBoundary.Platform
import AppBoundary.Proofs.Configuration.Setup
import AppBoundary.Proofs.Text.Numeral
import Mathlib.Data.List.Sort

namespace AppBoundary.Platform

/-! ## Entries -/

/-- An entry is the platform of a level: its name is a numeral of the level behind `android-`, and the
platform's classes are there. -/
def Installs (entry : String × Bool) (level : Nat) : Prop :=
  entry.2 = true ∧ level < Text.wordLimit ∧
    ∃ numeral, entry.1 = "android-" ++ numeral ∧ Text.IsNumeral numeral level

theorem levelOf?_eq_some_iff {name : String} {level : Nat} :
    levelOf? name = some level ↔
      level < Text.wordLimit ∧ ∃ numeral, name = "android-" ++ numeral ∧
        Text.IsNumeral numeral level := by
  rw [levelOf?, Option.bind_eq_some_iff]
  simp only [Text.word?_eq_some_iff]
  constructor
  · rintro ⟨numeral, hname, hnumeral, hlimit⟩
    exact ⟨hlimit, numeral, Text.eq_of_afterStart?_eq_some hname, hnumeral⟩
  · rintro ⟨hlimit, numeral, rfl, hnumeral⟩
    exact ⟨numeral, Text.afterStart?_append _ _, hnumeral, hlimit⟩

theorem installs_iff {entry : String × Bool} {level : Nat} :
    Installs entry level ↔ (if entry.2 then levelOf? entry.1 else none) = some level := by
  rw [Installs, ← levelOf?_eq_some_iff]
  cases entry.2 <;> simp

instance (level : Nat) : DecidablePred fun entry => Installs entry level :=
  fun _ => decidable_of_iff _ installs_iff.symm

theorem installs_decimal {level : Nat} (h : level < Text.wordLimit) :
    Installs ("android-" ++ Text.decimal level, true) level :=
  ⟨rfl, h, _, rfl, Text.isNumeral_decimal level⟩

theorem Installs.unique {entry : String × Bool} {level other : Nat} (h : Installs entry level)
    (hother : Installs entry other) : level = other := by
  rw [installs_iff] at h hother
  exact Option.some.inj (h.symm.trans hother)

/-! ## Listings -/

theorem pairwise_levelsOf (listing : List (String × Bool)) :
    (levelsOf listing).Pairwise (· ≤ ·) :=
  List.pairwise_mergeSort' (· ≤ ·) _

theorem count_levelsOf (listing : List (String × Bool)) (level : Nat) :
    (levelsOf listing).count level = listing.countP fun entry => Installs entry level := by
  rw [levelsOf, (List.mergeSort_perm _ _).count_eq, List.count_filterMap]
  congr 1
  funext entry
  rw [Bool.eq_iff_iff, beq_iff_eq, decide_eq_true_iff, installs_iff]

/-- The levels of a listing are the only ascending ones that have each level as often as the
entries. -/
theorem levelsOf_eq_iff {listing : List (String × Bool)} {levels : List Nat} :
    levelsOf listing = levels ↔
      levels.Pairwise (· ≤ ·) ∧
        ∀ level, levels.count level = listing.countP fun entry => Installs entry level := by
  constructor
  · rintro rfl
    exact ⟨pairwise_levelsOf listing, count_levelsOf listing⟩
  · rintro ⟨hascending, hcount⟩
    have hperm : (levelsOf listing).Perm levels := by
      rw [List.perm_iff_count]
      intro level
      rw [hcount, count_levelsOf]
    exact hperm.eq_of_pairwise (fun _ _ _ _ => Nat.le_antisymm) (pairwise_levelsOf listing)
      hascending

theorem levelsOf_perm {listing other : List (String × Bool)} (h : listing.Perm other) :
    levelsOf listing = levelsOf other := by
  refine levelsOf_eq_iff.2 ⟨pairwise_levelsOf other, fun level => ?_⟩
  rw [count_levelsOf, h.countP_eq]

/-- Entries that install no level play no part, and levels in their decimal spelling are given
back. -/
theorem levelsOf_decimal {levels : List Nat} {listing others : List (String × Bool)}
    (hascending : levels.Pairwise (· < ·)) (hlimit : ∀ level ∈ levels, level < Text.wordLimit)
    (hothers : ∀ entry ∈ others, ∀ level, ¬ Installs entry level)
    (hlisting : listing.Perm
      (levels.map (fun level => ("android-" ++ Text.decimal level, true)) ++ others)) :
    levelsOf listing = levels := by
  refine levelsOf_eq_iff.2 ⟨hascending.imp Nat.le_of_lt, fun level => ?_⟩
  rw [hlisting.countP_eq, List.countP_append, List.countP_map, List.count]
  have hnone : others.countP (fun entry => Installs entry level) = 0 := by
    simpa [List.countP_eq_zero] using fun name present hmem => hothers (name, present) hmem level
  rw [hnone, Nat.add_zero]
  refine List.countP_congr fun other hother => ?_
  rw [beq_iff_eq, Function.comp_apply, decide_eq_true_iff]
  constructor
  · rintro rfl
    exact installs_decimal (hlimit _ hother)
  · exact fun h => (installs_decimal (hlimit other hother)).unique h

/-! ## The highest level -/

/-- The last of ascending levels is the highest. -/
theorem getLast?_eq_some_iff_highest {levels : List Nat} (h : levels.Pairwise (· ≤ ·)) {level : Nat} :
    levels.getLast? = some level ↔ level ∈ levels ∧ ∀ other ∈ levels, other ≤ level := by
  have hlast : ∀ {last}, levels.getLast? = some last →
      last ∈ levels ∧ ∀ other ∈ levels, other ≤ last := by
    intro last hlast
    obtain ⟨before, rfl⟩ := List.getLast?_eq_some_iff.1 hlast
    rw [List.pairwise_append] at h
    refine ⟨by simp, fun other hother => ?_⟩
    rcases List.mem_append.1 hother with hbefore | hself
    · exact h.2.2 other hbefore last (by simp)
    · exact Nat.le_of_eq (List.mem_singleton.1 hself)
  refine ⟨hlast, fun ⟨hmem, hmax⟩ => ?_⟩
  cases hsome : levels.getLast? with
  | none =>
    rw [List.getLast?_eq_none_iff.1 hsome] at hmem
    cases hmem
  | some last =>
    obtain ⟨hin, hgreatest⟩ := hlast hsome
    rw [Nat.le_antisymm (hmax last hin) (hgreatest level hmem)]

/-! ## Directories -/

section

variable {tree : FileTree} {directory : Path}

/-- A name in a directory, with whether the platform's classes are there. -/
def inspected (tree : FileTree) (directory : Path) (name : String) : String × Bool :=
  (name, tree.isFile ((directory.join name).join "android.jar"))

theorem listing_of_list {names : List String} (h : tree.list directory = .ok names) :
    listing tree directory = names.map (inspected tree directory) := by
  rw [listing, h]
  rfl

theorem listing_of_list_error {cause : ReadFault} (h : tree.list directory = .error cause) :
    listing tree directory = [] := by
  rw [listing, h]

/-- The levels of a directory are those of all its names. -/
theorem installedLevels_of_list {names : List String} (h : tree.list directory = .ok names) :
    installedLevels tree directory = levelsOf (names.map (inspected tree directory)) := by
  rw [installedLevels, listing_of_list h]

theorem installedLevels_of_list_error {cause : ReadFault} (h : tree.list directory = .error cause) :
    installedLevels tree directory = [] := by
  rw [installedLevels, listing_of_list_error h, levelsOf, List.filterMap_nil, List.mergeSort_nil]

theorem apiLevel?_eq_none_iff :
    apiLevel? tree directory = none ↔ installedLevels tree directory = [] :=
  List.getLast?_eq_none_iff

/-- Only the listing of a directory counts, and its order does not. -/
theorem levels_of_perm {other : FileTree} {otherDirectory : Path}
    (h : (listing tree directory).Perm (listing other otherDirectory)) :
    installedLevels tree directory = installedLevels other otherDirectory ∧
      apiLevel? tree directory = apiLevel? other otherDirectory := by
  have hlevels : installedLevels tree directory = installedLevels other otherDirectory :=
    levelsOf_perm h
  exact ⟨hlevels, congrArg List.getLast? hlevels⟩

/-- A setup for an accepted Android configuration fails over its platforms when none is installed. -/
theorem exists_platformDirectory {settings : Settings} {config : Configuration} (tree : FileTree)
    (limit : Regex.Limit) (h : Configuration.ofSettings settings = .ok config) (hmode : config.mode = .android) :
    ∃ directory, config.platformDirectory = some directory ∧
      (AndroidSetup.new config (fun directory _ => apiLevel? tree directory) limit =
          .error (.platformDetection directory) ↔
        installedLevels tree directory = []) := by
  obtain ⟨package, directory, hsingle, -, hdirectory⟩ :=
    Configuration.exists_inputs_of_android h hmode
  have hpackage := Configuration.package?_of_android hmode hsingle
  refine ⟨directory, hdirectory, ?_⟩
  rw [(AndroidSetup.follows_of_ofSettings h _ limit).platforms]
  simp only [hdirectory, hpackage, Option.some.injEq, exists_eq_left', true_and,
    apiLevel?_eq_none_iff]

end

/-! ## The law -/

/-- The levels of a listing are the ones that its entries install, each as often as they do, in
ascending order. Listings of the same entries in another order give the same levels, and levels under
their decimal names are given back whatever else is listed. The listing of a directory has an entry for
each of its names, and none where it cannot be read. The highest level is found unless there is none,
and this is when no setup is made for an Android run. -/
theorem levels_are_those_installed_in_any_listing :
    (∀ listing levels, levelsOf listing = levels ↔
      levels.Pairwise (· ≤ ·) ∧
        ∀ level, levels.count level = listing.countP fun entry => Installs entry level) ∧
    (∀ listing other, listing.Perm other → levelsOf listing = levelsOf other) ∧
    (∀ levels listing others, levels.Pairwise (· < ·) → (∀ level ∈ levels, level < Text.wordLimit) →
      (∀ entry ∈ others, ∀ level, ¬ Installs entry level) →
      listing.Perm (levels.map (fun level => ("android-" ++ Text.decimal level, true)) ++ others) →
        levelsOf listing = levels) ∧
    (∀ tree directory,
      (∀ names, tree.list directory = .ok names →
        listing tree directory = names.map (inspected tree directory) ∧
        installedLevels tree directory = levelsOf (names.map (inspected tree directory))) ∧
      (∀ cause, tree.list directory = .error cause →
        listing tree directory = [] ∧ installedLevels tree directory = []) ∧
      (∀ other otherDirectory, (listing tree directory).Perm (listing other otherDirectory) →
        installedLevels tree directory = installedLevels other otherDirectory ∧
        apiLevel? tree directory = apiLevel? other otherDirectory) ∧
      (∀ level, apiLevel? tree directory = some level ↔
        level ∈ installedLevels tree directory ∧
          ∀ other ∈ installedLevels tree directory, other ≤ level) ∧
      (apiLevel? tree directory = none ↔ installedLevels tree directory = [])) ∧
    ∀ settings config tree limit, Configuration.ofSettings settings = .ok config →
      config.mode = .android →
      ∃ directory, config.platformDirectory = some directory ∧
        (AndroidSetup.new config (fun directory _ => apiLevel? tree directory) limit =
            .error (.platformDetection directory) ↔
          installedLevels tree directory = []) := by
  refine ⟨fun listing levels => levelsOf_eq_iff, fun listing other => levelsOf_perm,
    fun levels listing others => levelsOf_decimal, fun tree directory => ?_,
    fun settings config tree limit => exists_platformDirectory tree limit⟩
  refine ⟨fun names hnames => ?_, fun cause hcause => ?_, fun other otherDirectory => levels_of_perm,
    fun level => getLast?_eq_some_iff_highest (pairwise_levelsOf _), apiLevel?_eq_none_iff⟩
  · exact ⟨listing_of_list hnames, installedLevels_of_list hnames⟩
  · exact ⟨listing_of_list_error hcause, installedLevels_of_list_error hcause⟩

/-- A directory with two platforms, one without its classes and one with a name of another kind. -/
def mixedPlatforms : FileTree :=
  (((FileTree.empty.write ⟨"platforms/android-33/android.jar"⟩ ⟨#[]⟩).makeDirectory
    ⟨"platforms/android-34"⟩).write ⟨"platforms/sources/android.jar"⟩ ⟨#[]⟩).write
    ⟨"platforms/android-9/android.jar"⟩ ⟨#[]⟩

/-- The names of the directory, with whether the platforms' classes are there. -/
def mixedListing : List (String × Bool) :=
  [("android-9", true), ("sources", true), ("android-34", false), ("android-33", true)]

/-- The two platforms stand in the order of their numbers, the higher one is the level of the
directory, and in a directory that is not there is none. -/
theorem two_of_four_entries_are_levels :
    listing mixedPlatforms ⟨"platforms"⟩ = mixedListing ∧
      installedLevels mixedPlatforms ⟨"platforms"⟩ = [9, 33] ∧
      apiLevel? mixedPlatforms ⟨"platforms"⟩ = some 33 ∧
      levelsOf mixedListing.reverse = levelsOf mixedListing ∧
      ∃ directory, Configuration.packageConfiguration.platformDirectory = some directory ∧
        AndroidSetup.new Configuration.packageConfiguration
            (fun directory _ => apiLevel? .empty directory) =
          .error (.platformDetection directory) := by
  obtain ⟨-, horder, hgiven, hdirectories, hsetup⟩ := levels_are_those_installed_in_any_listing
  have hothers : ∀ entry ∈ [("sources", true), ("android-34", false)],
      ∀ level, ¬ Installs entry level := by
    intro entry hentry level
    rw [installs_iff]
    rcases List.mem_pair.1 hentry with rfl | rfl
    · have hnone : levelOf? "sources" = none := by decide
      simp [hnone]
    · simp
  have hperm : mixedListing.Perm
      ([9, 33].map (fun level => ("android-" ++ Text.decimal level, true)) ++
        [("sources", true), ("android-34", false)]) := by
    decide
  have hnames : mixedPlatforms.list ⟨"platforms"⟩ =
      .ok ["android-9", "sources", "android-34", "android-33"] :=
    eq_ok_of_toOption (by decide +kernel)
  have hinspected : ["android-9", "sources", "android-34", "android-33"].map
      (inspected mixedPlatforms ⟨"platforms"⟩) = mixedListing := by
    decide +kernel
  obtain ⟨hlisted, -, -, hhighest, -⟩ := hdirectories mixedPlatforms ⟨"platforms"⟩
  obtain ⟨hlisting, hlevels⟩ := hlisted _ hnames
  rw [hinspected] at hlisting hlevels
  rw [hgiven _ _ _ (by decide) (by decide) hothers hperm] at hlevels
  have hlevel : apiLevel? mixedPlatforms ⟨"platforms"⟩ = some 33 := by
    rw [hhighest, hlevels]
    decide
  obtain ⟨directory, hdirectory, hfails⟩ :=
    hsetup _ _ .empty _ Configuration.ofSettings_packageSettings rfl
  refine ⟨hlisting, hlevels, hlevel, horder _ _ (List.reverse_perm _), directory, hdirectory,
    hfails.2 ?_⟩
  obtain rfl : ⟨"platforms"⟩ = directory := Option.some.inj hdirectory
  obtain ⟨-, hmissing, -⟩ := hdirectories .empty ⟨"platforms"⟩
  have hcause : FileTree.empty.list ⟨"platforms"⟩ = .error .notFound := rfl
  exact (hmissing _ hcause).2

end AppBoundary.Platform
