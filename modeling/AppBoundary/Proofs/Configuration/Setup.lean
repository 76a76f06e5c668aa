-- The setup of an Android run, made from an accepted configuration. What the
-- checks promised holds: no input is missing any more, and the package is read
-- as an archive. The patterns are the exception, for the checks only look for
-- blank ones and the filter has to read them all.
import AppBoundary.AndroidSetup
import AppBoundary.Proofs.Configuration.Runs
import AppBoundary.Proofs.Filter.Acceptance

namespace AppBoundary

namespace AndroidSetup

variable {config : Configuration} {levelOf : Path → Path → Option Nat} {limit : Regex.Limit}

/-! ## Making a setup -/

theorem new_of_java (levelOf : Path → Path → Option Nat) (hmode : config.mode = .java) :
    new config levelOf limit = .error (.configuration .noPackage) := by
  rw [new, Configuration.package?_of_java hmode]

theorem new_of_noLevel {package directory : Path} (hpackage : config.package? = some package)
    (hdirectory : config.platformDirectory = some directory)
    (hlevel : levelOf directory package = none) :
    new config levelOf limit = .error (.platformDetection directory) := by
  rw [new, hpackage, hdirectory]
  simp only [hlevel]

/-- Behind the level the filter alone decides. -/
theorem new_of_level {package directory : Path} {level : Nat}
    (hpackage : config.package? = some package)
    (hdirectory : config.platformDirectory = some directory)
    (hlevel : levelOf directory package = some level) :
    new config levelOf limit = (Filter.ofEntries config.patterns limit).map fun filter =>
      ⟨level, package, directory, .new directory package, filter, none⟩ := by
  rw [new, hpackage, hdirectory]
  simp only [hlevel]
  cases Filter.ofEntries config.patterns limit <;> rfl

/-- The index of a package is read from it as an archive. -/
theorem getIndex_of_package {setup : AndroidSetup} (hindex : setup.index = none)
    (hpackage : setup.package.isPackage = true) (tree : FileTree) :
    (setup.getIndex tree).1 = ClassIndex.openArchive tree setup.package := by
  rw [getIndex, hindex]
  simp only [ClassIndex.openFile, hpackage, if_true]
  cases ClassIndex.openArchive tree setup.package <;> rfl

/-! ## Setups of accepted configurations -/

/-- The outcome of a setup says which of its inputs failed, and a setup that is made keeps what was
found and reads its package as an archive. -/
structure Follows (config : Configuration) (levelOf : Path → Path → Option Nat)
    (limit : Regex.Limit) : Prop where
  inputs : ∀ cause, new config levelOf limit = .error (.configuration cause) ↔
    config.mode = .java ∧ cause = .noPackage
  platforms : ∀ directory, new config levelOf limit = .error (.platformDetection directory) ↔
    config.platformDirectory = some directory ∧
      ∃ package, config.package? = some package ∧ levelOf directory package = none
  made : ∀ setup, new config levelOf limit = .ok setup →
    config.package? = some setup.package ∧
      config.platformDirectory = some setup.platformDirectory ∧
      levelOf setup.platformDirectory setup.package = some setup.apiLevel ∧
      Filter.ofEntries config.patterns limit = .ok setup.filter
  archive : ∀ setup, new config levelOf limit = .ok setup →
    ∀ tree, (setup.getIndex tree).1 = ClassIndex.openArchive tree setup.package

theorem follows_of_java (hmode : config.mode = .java) : Follows config levelOf limit := by
  have hpackage := Configuration.package?_of_java hmode
  constructor
  case inputs => simp [new_of_java levelOf hmode, hmode, eq_comm]
  case platforms => simp [new_of_java levelOf hmode, hpackage]
  case made => simp [new_of_java levelOf hmode]
  case archive => simp [new_of_java levelOf hmode]

theorem follows_of_package {package directory : Path} (hmode : config.mode = .android)
    (hpackage : config.package? = some package) (hextension : package.isPackage = true)
    (hdirectory : config.platformDirectory = some directory) (hpatterns : config.patterns ≠ []) :
    Follows config levelOf limit := by
  cases hlevel : levelOf directory package with
  | none =>
    have hnew : new config levelOf limit = _ := new_of_noLevel hpackage hdirectory hlevel
    constructor
    case inputs => simp [hnew, hmode]
    case platforms =>
      intro other
      rw [hnew, hpackage, hdirectory]
      constructor
      · rintro ⟨⟩
        exact ⟨rfl, package, rfl, hlevel⟩
      · rintro ⟨⟨⟩, -⟩
        rfl
    case made => simp [hnew]
    case archive => simp [hnew]
  | some level =>
    have hnew : new config levelOf limit = _ := new_of_level hpackage hdirectory hlevel
    have hfault : ∀ fault, new config levelOf limit = .error fault →
        fault = .invalidPattern (Filter.joined config.patterns) := by
      intro fault hfault
      rw [hnew, Filter.ofEntries_of_ne_nil hpatterns] at hfault
      split at hfault <;> cases hfault
      rfl
    have hfound : ∀ other, ¬ (config.platformDirectory = some other ∧
        ∃ package, config.package? = some package ∧ levelOf other package = none) := by
      rw [hpackage, hdirectory]
      rintro _ ⟨⟨⟩, _, ⟨⟩, hnone⟩
      rw [hlevel] at hnone
      cases hnone
    constructor
    case inputs =>
      exact fun cause => iff_of_false (fun h => by cases hfault _ h) (by simp [hmode])
    case platforms =>
      exact fun other => iff_of_false (fun h => by cases hfault _ h) (hfound other)
    case made =>
      intro setup hsetup
      rw [hnew] at hsetup
      obtain ⟨filter, hfilter, rfl⟩ := Except.map_eq_ok_iff.1 hsetup
      exact ⟨hpackage, hdirectory, hlevel, hfilter⟩
    case archive =>
      intro setup hsetup
      rw [hnew] at hsetup
      obtain ⟨filter, -, rfl⟩ := Except.map_eq_ok_iff.1 hsetup
      exact getIndex_of_package rfl hextension

/-- The setup of an accepted configuration relies on what its checks have found. -/
theorem follows_of_ofSettings {settings : Settings}
    (h : Configuration.ofSettings settings = .ok config) (levelOf : Path → Path → Option Nat)
    (limit : Regex.Limit) : Follows config levelOf limit := by
  obtain ⟨hkeeps, hfits⟩ := Configuration.fits_of_ofSettings h
  cases hfits with
  | java _ _ hmode => exact follows_of_java hmode
  | android package directory hmode hsingle hextension hdirectory =>
    have hpackage := Configuration.package?_of_android hmode hsingle
    have hpatterns : config.patterns ≠ [] := by
      rw [hkeeps.patterns]
      exact (RuleSet.parse_eq_ok_iff.1 hkeeps.rules).1.1
    exact follows_of_package hmode hpackage hextension hdirectory hpatterns

/-- Behind the level a setup is made when the patterns make a filter. -/
theorem new_isOk_iff {package directory : Path} {level : Nat}
    (hpackage : config.package? = some package)
    (hdirectory : config.platformDirectory = some directory)
    (hlevel : levelOf directory package = some level) :
    (∃ setup, new config levelOf limit = .ok setup) ↔
      ∃ filter, Filter.ofEntries config.patterns limit = .ok filter := by
  rw [new_of_level hpackage hdirectory hlevel]
  simp only [Except.map_eq_ok_iff]
  exact ⟨fun ⟨_, filter, hfilter, _⟩ => ⟨filter, hfilter⟩,
    fun ⟨filter, hfilter⟩ => ⟨_, filter, hfilter, rfl⟩⟩

end AndroidSetup

namespace Configuration

/-! ## The laws -/

/-- Settings become a configuration when nothing objects to them, and the first objection is the
fault otherwise. The configuration keeps them, its mode says what the artifacts are, in whatever
order, and the setup of a run fails over its inputs just where the run is not about Android. -/
theorem settings_are_accepted_when_nothing_objects (settings : Settings) :
    (∀ fault, ofSettings settings = .error fault ↔
      ∃ cause, firstObjection? settings = some cause ∧ fault = .configuration cause) ∧
    ((∃ config, ofSettings settings = .ok config) ↔ ∀ cause, ¬ Objects settings cause) ∧
    (∀ config, ofSettings settings = .ok config →
      config.Keeps settings ∧ config.ModeTells settings ∧
        ∀ levelOf limit, AndroidSetup.Follows config levelOf limit) ∧
    ∀ artifacts : List Path, artifacts.Perm settings.applicationArtifacts →
      (ofSettings { settings with applicationArtifacts := artifacts }).map (·.mode) =
        (ofSettings settings).map (·.mode) := by
  refine ⟨fun _ => ofSettings_eq_error_iff, ofSettings_isOk_iff, fun config h => ?_,
    fun _ h => mode_of_perm h⟩
  obtain ⟨hkeeps, hfits⟩ := fits_of_ofSettings h
  exact ⟨hkeeps, modeTells_of_fits hkeeps hfits, AndroidSetup.follows_of_ofSettings h⟩

/-- Settings of a run about one package. -/
def packageSettings : Settings :=
  { Settings.unset with
    patterns := ["com.app.**"]
    applicationArtifacts := [⟨"app.apk"⟩]
    outputDirectory := some ⟨"out"⟩
    platformDirectory := some ⟨"platforms"⟩ }

/-- The configuration that the settings of the package become. -/
def packageConfiguration : Configuration where
  patterns := ["com.app.**"]
  rules := ⟨[ruleOf "com.app.**"]⟩
  applicationArtifacts := [⟨"app.apk"⟩]
  libraryArtifacts := []
  dynamicClassesFile := none
  reflectionFactsFile := none
  outputDirectory := ⟨"out"⟩
  runtimeDirectory := none
  platformDirectory := some ⟨"platforms"⟩
  mainClass := none
  mode := .android

theorem ofSettings_packageSettings : ofSettings packageSettings = .ok packageConfiguration := by
  rfl

/-- A package is accepted alone and not behind an archive, and a run about it fails where no level
is found. -/
theorem a_package_is_accepted_alone :
    packageConfiguration.package? = some ⟨"app.apk"⟩ ∧
    AndroidSetup.new packageConfiguration (fun _ _ => none) =
      .error (.platformDetection ⟨"platforms"⟩) ∧
    firstObjection? { packageSettings with applicationArtifacts := [⟨"lib.jar"⟩, ⟨"app.apk"⟩] } =
      some .severalArtifacts := by
  obtain ⟨-, -, hkept, -⟩ := settings_are_accepted_when_nothing_objects packageSettings
  obtain ⟨hkeeps, htells, hfollows⟩ := hkept _ ofSettings_packageSettings
  have hmode : packageConfiguration.mode = .android :=
    htells.android.2 ⟨⟨"app.apk"⟩, rfl, by decide⟩
  have hpackage : packageConfiguration.package? = some ⟨"app.apk"⟩ :=
    (htells.package _).2 ⟨hmode, rfl⟩
  have hlevel := ((hfollows (fun _ _ => none) Regex.estimatedLimit).platforms ⟨"platforms"⟩).2
    ⟨hkeeps.platformDirectory, _, hpackage, rfl⟩
  obtain ⟨hfaults, -⟩ := settings_are_accepted_when_nothing_objects
    { packageSettings with applicationArtifacts := [⟨"lib.jar"⟩, ⟨"app.apk"⟩] }
  obtain ⟨cause, hfirst, hcause⟩ := (hfaults (.configuration .severalArtifacts)).1 rfl
  cases hcause
  exact ⟨hpackage, hlevel, hfirst⟩

/-- Accepted patterns are looked at again behind the level, and the text that is made of them
decides, whatever sizes the limit admits. Patterns without metacharacters pass when the limit admits
their text, and by the estimate it does unless they are all single characters or very long. Whatever
settings were accepted, patterns that leave a class open are accepted in their place and fail then. -/
theorem accepted_patterns_may_make_no_filter {settings : Settings} {config : Configuration}
    {levelOf : Path → Path → Option Nat} {package directory : Path} {level : Nat}
    (h : ofSettings settings = .ok config) (hpackage : config.package? = some package)
    (hdirectory : config.platformDirectory = some directory)
    (hlevel : levelOf directory package = some level) :
    (∀ limit : Regex.Limit,
      ((∃ setup, AndroidSetup.new config levelOf limit = .ok setup) ↔
        ∃ filter, Filter.ofEntries settings.patterns limit = .ok filter) ∧
      (∀ fault, AndroidSetup.new config levelOf limit = .error fault →
        fault = .invalidPattern (Filter.joined settings.patterns)) ∧
      ((∀ entry ∈ settings.patterns, Filter.Plain entry.toList) →
        ((∃ setup, AndroidSetup.new config levelOf limit = .ok setup) ↔
          limit (Filter.joined settings.patterns).toList = true))) ∧
    ((∀ entry ∈ settings.patterns, Filter.Plain entry.toList) →
      (∃ entry ∈ settings.patterns, entry.length ≠ 1) →
      total (fun entry => entry.length + 1) settings.patterns ≤ Filter.ampleLength →
      ∃ setup, AndroidSetup.new config levelOf = .ok setup) ∧
    ∀ entries, (∀ entry ∈ entries, Text.isBlank entry = false) → Filter.LeavesClassOpen entries →
      ∃ other, ofSettings { settings with patterns := entries } = .ok other ∧
        other.mode = config.mode ∧
        ∀ limit, AndroidSetup.new other levelOf limit =
          .error (.invalidPattern (Filter.joined entries)) := by
  obtain ⟨hkeeps, -⟩ := fits_of_ofSettings h
  have hne : settings.patterns ≠ [] := (RuleSet.parse_eq_ok_iff.1 hkeeps.rules).1.1
  have hmade : ∀ limit, (∃ setup, AndroidSetup.new config levelOf limit = .ok setup) ↔
      ∃ filter, Filter.ofEntries settings.patterns limit = .ok filter := by
    intro limit
    rw [AndroidSetup.new_isOk_iff hpackage hdirectory hlevel, hkeeps.patterns]
  refine ⟨fun limit => ⟨hmade limit, ?_, fun hplain => ?_⟩, fun hplain hmany hlength => ?_,
    fun entries hblank hopen => ?_⟩
  · intro fault hfault
    rw [AndroidSetup.new_of_level hpackage hdirectory hlevel, hkeeps.patterns,
      Filter.ofEntries_of_ne_nil hne] at hfault
    split at hfault <;> cases hfault
    rfl
  · rw [hmade, Filter.ofEntries_of_plain hne hplain]
    split <;> simp [*]
  · exact (hmade _).2 ⟨_, Filter.ofEntries_of_plain_of_total_le hplain hmany hlength⟩
  · obtain ⟨other, hother, hpatterns, hmode, hpackage', hdirectory'⟩ :=
      ofSettings_of_patterns h hopen.ne_nil hblank
    refine ⟨other, hother, hmode, fun limit => ?_⟩
    rw [AndroidSetup.new_of_level (hpackage'.trans hpackage) (hdirectory'.trans hdirectory) hlevel,
      hpatterns, Filter.ofEntries_of_leavesClassOpen hopen]
    rfl

theorem leavesClassOpen_singleton : Filter.LeavesClassOpen ["com.app.[AB"] := by
  have hentry : "com.app.[AB".toList = "com.app.".toList ++ '[' :: ['A', 'B'] := by decide
  have hbefore : Filter.Plain "com.app.".toList := by
    simp [Filter.Plain, Filter.metacharacters]
  have hearlier : ∀ other ∈ ([] : List String), Filter.Plain other.toList := by simp
  exact .intro hearlier hentry hbefore (by decide) (by simp)

/-- A pattern of a whole package passes, and a class that stays open in its place does not, not even
where every size is admitted. -/
theorem a_whole_package_passes_and_an_open_class_does_not :
    (∃ setup, AndroidSetup.new packageConfiguration (fun _ _ => some 33) = .ok setup) ∧
      ∃ other, ofSettings { packageSettings with patterns := ["com.app.[AB"] } = .ok other ∧
        AndroidSetup.new other (fun _ _ => some 33) (fun _ => true) =
          .error (.invalidPattern "(?:com\\.app\\.[AB)") := by
  have hpackage : packageConfiguration.package? = some ⟨"app.apk"⟩ := rfl
  have hdirectory : packageConfiguration.platformDirectory = some ⟨"platforms"⟩ := rfl
  let levelOf : Path → Path → Option Nat := fun _ _ => some 33
  have hlevel : levelOf ⟨"platforms"⟩ ⟨"app.apk"⟩ = some 33 := rfl
  obtain ⟨-, hpass, hfail⟩ :=
    accepted_patterns_may_make_no_filter ofSettings_packageSettings hpackage hdirectory hlevel
  have hplain : ∀ entry ∈ packageSettings.patterns, Filter.Plain entry.toList := by
    simp [packageSettings, Filter.Plain, Filter.metacharacters]
  have hmany : ∃ entry ∈ packageSettings.patterns, entry.length ≠ 1 := ⟨"com.app.**", by decide⟩
  obtain ⟨other, hother, -, hfault⟩ := hfail _ (by decide) leavesClassOpen_singleton
  exact ⟨hpass hplain hmany (by decide), other, hother, hfault _⟩

/-- The class that stays open is accepted for a run about the package, and no setup is made, whatever
sizes the limit admits. -/
theorem the_open_class_fails_behind_the_checks :
    ∃ config, ofSettings { packageSettings with patterns := ["com.app.[AB"] } = .ok config ∧
      config.mode = .android ∧
      ∀ limit setup, AndroidSetup.new config (fun _ _ => some 33) limit ≠ .ok setup := by
  obtain ⟨config, hconfig, hpatterns, hmode, hpackage, hdirectory⟩ :=
    ofSettings_of_patterns ofSettings_packageSettings
      leavesClassOpen_singleton.ne_nil (by decide)
  refine ⟨config, hconfig, hmode, fun limit setup hsetup => ?_⟩
  rw [AndroidSetup.new_of_level hpackage hdirectory rfl, hpatterns,
    Filter.ofEntries_of_leavesClassOpen leavesClassOpen_singleton] at hsetup
  cases hsetup

end Configuration

end AppBoundary
