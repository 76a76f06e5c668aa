-- How a run ends. Settings that are refused are answered with the usage text,
-- which is no failure; a run fails over its settings file, or over what its
-- configuration names; and every other run is complete, with a summary whose
-- counts fit together.
import AppBoundary.Proofs.AndroidSetup.Calls
import AppBoundary.Proofs.CommandLine.Loading
import AppBoundary.Proofs.Configuration.Setup
import AppBoundary.Proofs.DynamicClasses

namespace AppBoundary

/-! ## The census -/

namespace CommandLine.Report

/-- Both counts come from one reading of the index, so where the first succeeds the second does. -/
theorem censusLine_eq (tree : FileTree) {setup : AndroidSetup} (h : setup.index = none) :
    censusLine tree setup = (ClassIndex.openFile tree setup.package).map fun index =>
      "Application references: " ++ Text.decimal (setup.filter.countClasses index) ++ " classes, "
        ++ Text.decimal (setup.filter.countMethods index) ++ " methods" := by
  unfold censusLine AndroidSetup.countClasses AndroidSetup.countMethods
  simp only [AndroidSetup.getIndex_eq, AndroidSetup.indexOutcome, h]
  cases ClassIndex.openFile tree setup.package <;> rfl

end CommandLine.Report

namespace CommandLine

open Text (decimal)

/-! ## Summaries -/

/-- The part of a summary about dynamically loaded classes. -/
inductive DynamicSummary (tree : FileTree) (config : Configuration) : List String → Prop
  | off : config.dynamicClassesFile = none → DynamicSummary tree config []
  | counted (path : Path) (content : String) (total application library : Nat) :
      config.dynamicClassesFile = some path → tree.readText path = .ok content →
      total = (DynamicClasses.parse content).names.length →
      application = (DynamicClasses.parse content).names.countP config.rules.isApplication →
      application + library = total →
      DynamicSummary tree config
        ["Dynamic classes: " ++ decimal total ++ " (" ++ decimal application ++ " application, "
          ++ decimal library ++ " library)"]

/-- The part of a summary that depends on the mode. About a package, it is the census of the package's
index. -/
inductive ModeSummary (tree : FileTree) (config : Configuration) (limit : Regex.Limit) :
    List String → Prop
  | java : config.mode = .java → ModeSummary tree config limit (Report.javaLines config)
  | android (package directory : Path) (level : Nat) (filter : Filter) (index : ClassIndex) :
      config.mode = .android → config.package? = some package →
      config.platformDirectory = some directory →
      Platform.apiLevel? tree directory = some level →
      Filter.ofEntries config.patterns limit = .ok filter →
      ClassIndex.openFile tree package = .ok index →
      ModeSummary tree config limit
        ["Android API level: " ++ decimal level,
         "Application references: " ++ decimal (filter.countClasses index) ++ " classes, "
          ++ decimal (filter.countMethods index) ++ " methods"]

/-- The summary of a configuration. -/
inductive Summary (tree : FileTree) (config : Configuration) (limit : Regex.Limit) :
    List String → Prop
  | intro (dynamic mode : List String) : DynamicSummary tree config dynamic →
      ModeSummary tree config limit mode →
      Summary tree config limit
        (Report.configurationLines config ++ dynamic ++ Report.factsLines config ++ mode)

/-! ## Failures -/

/-- What keeps the summary of a configuration from being made. -/
inductive CutShort (tree : FileTree) (config : Configuration) (limit : Regex.Limit) : Prop
  | dynamicClasses (path : Path) (cause : ReadFault) : config.dynamicClassesFile = some path →
      tree.readText path = .error cause → CutShort tree config limit
  | noLevel (directory : Path) : config.mode = .android →
      config.platformDirectory = some directory → Platform.apiLevel? tree directory = none →
      CutShort tree config limit
  | noFilter (fault : Fault) : config.mode = .android →
      Filter.ofEntries config.patterns limit = .error fault → CutShort tree config limit
  | noIndex (package : Path) (fault : Fault) : config.mode = .android →
      config.package? = some package → ClassIndex.openFile tree package = .error fault →
      CutShort tree config limit

/-- What keeps the settings file in force from being read: it has no readable text, or no file is named
and the working directory, which would hold it, cannot be told. -/
inductive Unreadable (tree : FileTree) (arguments : Arguments) : Prop
  | file (path : Path) (cause : ReadFault) : InForce tree arguments path →
      tree.readText path = .error cause → Unreadable tree arguments
  | unlocated (cause : ReadFault) : Unlocated tree arguments cause → Unreadable tree arguments

/-- What makes a run fail: its settings file cannot be read or is malformed, or the summary of its
configuration cannot be made. -/
inductive Fails (tree : FileTree) (arguments : Arguments) (limit : Regex.Limit) : Prop
  | unreadable : Unreadable tree arguments → Fails tree arguments limit
  | malformed (path : Path) (text : String) (fault : SettingsFault) :
      InForce tree arguments path → tree.readText path = .ok text →
      (Settings.Format.ofPath path).read text = .error fault → Fails tree arguments limit
  | cutShort (settings : Settings) (config : Configuration) :
      loadSettings tree arguments = .ok settings → Configuration.ofSettings settings = .ok config →
      CutShort tree config limit → Fails tree arguments limit

/-- The settings of a run can be loaded, and they are refused. -/
def Misused (tree : FileTree) (arguments : Arguments) : Prop :=
  ∃ settings fault, loadSettings tree arguments = .ok settings ∧
    Configuration.ofSettings settings = .error fault

variable {tree : FileTree} {arguments : Arguments} {settings : Settings} {config : Configuration}
  {lines : List String} {limit : Regex.Limit}

/-- The summary about a package has a level, a filter and an index. -/
theorem ModeSummary.inputs (h : ModeSummary tree config limit lines)
    (handroid : config.mode = .android) :
    (∀ directory, config.platformDirectory = some directory →
      Platform.apiLevel? tree directory ≠ none) ∧
    (∀ fault, Filter.ofEntries config.patterns limit ≠ .error fault) ∧
    ∀ package fault, config.package? = some package →
      ClassIndex.openFile tree package ≠ .error fault := by
  cases h with
  | java hjava =>
    rw [handroid] at hjava
    cases hjava
  | android package directory level filter index _ hpackage hdirectory hlevel hfilter hindex =>
    refine ⟨fun other hother => ?_, fun fault hfault => ?_, fun other fault hother => ?_⟩
    · rw [hdirectory, Option.some.injEq] at hother
      rw [← hother, hlevel]
      exact Option.some_ne_none level
    · rw [hfilter] at hfault
      cases hfault
    · rw [hpackage, Option.some.injEq] at hother
      rw [← hother, hindex]
      exact fun hfault => nomatch hfault

/-- Where there is a summary, nothing keeps it from being made. -/
theorem Summary.not_cutShort (h : Summary tree config limit lines) :
    ¬ CutShort tree config limit := by
  obtain ⟨dynamic, mode, hdynamic, hmode⟩ := h
  intro hcut
  cases hcut with
  | dynamicClasses path cause hpath hread =>
    cases hdynamic with
    | off hnone =>
      rw [hnone] at hpath
      cases hpath
    | counted other content _ _ _ hother hcontent =>
      rw [hpath, Option.some.injEq] at hother
      rw [← hother, hread] at hcontent
      cases hcontent
  | noLevel directory handroid hdirectory hlevel =>
    obtain ⟨hlevels, -⟩ := hmode.inputs handroid
    exact hlevels directory hdirectory hlevel
  | noFilter fault handroid hfilter =>
    obtain ⟨-, hfilters, -⟩ := hmode.inputs handroid
    exact hfilters fault hfilter
  | noIndex package fault handroid hpackage hindex =>
    obtain ⟨-, -, hindices⟩ := hmode.inputs handroid
    exact hindices package fault hpackage hindex

/-! ## Reports -/

/-- A report, or a part of one, says all that it should, or something is in the way of that. -/
inductive Report.Accounts (whole : List String → Prop) (obstacle : Prop) : Report → Prop
  | complete (lines : List String) : whole lines → Accounts whole obstacle ⟨lines, none⟩
  | cut (lines : List String) (fault : Fault) : obstacle → Accounts whole obstacle ⟨lines, some fault⟩

theorem accounts_android {package directory : Path} (hmode : config.mode = .android)
    (hpackage : config.package? = some package)
    (hdirectory : config.platformDirectory = some directory) :
    Report.Accounts (ModeSummary tree config limit) (CutShort tree config limit)
      (Report.android tree config limit) := by
  unfold Report.android
  cases hlevel : Platform.apiLevel? tree directory with
  | none =>
    rw [AndroidSetup.new_of_noLevel hpackage hdirectory hlevel]
    exact .cut _ _ (.noLevel directory hmode hdirectory hlevel)
  | some level =>
    rw [AndroidSetup.new_of_level hpackage hdirectory hlevel]
    cases hfilter : Filter.ofEntries config.patterns limit with
    | error fault => exact .cut _ _ (.noFilter fault hmode hfilter)
    | ok filter =>
      simp only [Except.map]
      rw [Report.censusLine_eq tree rfl]
      cases hindex : ClassIndex.openFile tree package with
      | error fault => exact .cut _ _ (.noIndex package fault hmode hpackage hindex)
      | ok index =>
        exact .complete _ (.android package directory level filter index hmode hpackage hdirectory
          hlevel hfilter hindex)

/-- An accepted configuration has all that its mode needs. -/
theorem accounts_ofMode (h : Configuration.ofSettings settings = .ok config) :
    Report.Accounts (ModeSummary tree config limit) (CutShort tree config limit)
      (Report.ofMode tree config limit) := by
  unfold Report.ofMode
  obtain ⟨-, hfits⟩ := Configuration.fits_of_ofSettings h
  cases hfits with
  | java _ _ hmode =>
    rw [hmode]
    exact .complete _ (.java hmode)
  | android package directory hmode hsingle _ hdirectory =>
    rw [hmode]
    exact accounts_android hmode (Configuration.package?_of_android hmode hsingle) hdirectory

theorem dynamicSummary_of_load {classes : DynamicClasses}
    (h : DynamicClasses.load tree config.dynamicClassesFile = .ok classes) :
    DynamicSummary tree config (Report.dynamicLines config classes) := by
  unfold Report.dynamicLines
  cases hfile : config.dynamicClassesFile with
  | none => exact .off hfile
  | some path =>
    rw [hfile, DynamicClasses.load] at h
    cases hread : tree.readText path with
    | error cause =>
      rw [hread] at h
      cases h
    | ok content =>
      rw [hread, Except.ok.injEq] at h
      subst h
      exact .counted path content _ _ _ hfile hread rfl List.countP_eq_length_filter.symm
        (DynamicClasses.length_application_add_length_library _ _)

theorem accounts_ofConfiguration (h : Configuration.ofSettings settings = .ok config) :
    Report.Accounts (Summary tree config limit) (CutShort tree config limit)
      (Report.ofConfiguration tree config limit) := by
  unfold Report.ofConfiguration
  cases hload : DynamicClasses.load tree config.dynamicClassesFile with
  | error fault =>
    cases hfile : config.dynamicClassesFile with
    | none =>
      rw [hfile] at hload
      cases hload
    | some path =>
      cases hread : tree.readText path with
      | error cause => exact .cut _ _ (.dynamicClasses path cause hfile hread)
      | ok content =>
        rw [hfile, DynamicClasses.load, hread] at hload
        cases hload
  | ok classes =>
    -- The lines of the mode come last, so only they can still be cut short.
    have hmode : Report.Accounts (ModeSummary tree config limit) (CutShort tree config limit) _ :=
      accounts_ofMode h
    simp only
    generalize Report.ofMode tree config limit = last at hmode
    cases hmode with
    | complete lines hsummary => exact .complete _ (.intro _ _ (dynamicSummary_of_load hload) hsummary)
    | cut lines fault hcut => exact .cut _ _ hcut

/-! ## Settings files -/

/-- Settings that cannot be loaded have a file in force, which is unreadable or malformed, or nobody
knows where one would be. -/
theorem fails_of_loadSettings {fault : LoadFault}
    (h : loadSettings tree arguments = .error fault) : Fails tree arguments limit := by
  by_cases hforce : ∃ path, InForce tree arguments path
  · obtain ⟨path, hpath⟩ := hforce
    cases hread : tree.readText path with
    | error cause => exact .unreadable (.file path cause hpath hread)
    | ok text =>
      cases hsettings : (Settings.Format.ofPath path).read text with
      | error fault => exact .malformed path text fault hpath hread hsettings
      | ok file =>
        rw [loadSettings_of_inForce hpath, Settings.load, hread] at h
        simp only [hsettings] at h
        cases h
  · by_cases hlocated : ∃ cause, Unlocated tree arguments cause
    · obtain ⟨cause, hcause⟩ := hlocated
      exact .unreadable (.unlocated cause hcause)
    · rw [loadSettings_of_no_file (not_exists.1 hforce) (not_exists.1 hlocated)] at h
      cases h

/-- A settings file that cannot be read leaves no settings. -/
theorem Unreadable.loadSettings_ne (h : Unreadable tree arguments) :
    loadSettings tree arguments ≠ .ok settings := by
  intro hload
  cases h with
  | file path cause hpath hread =>
    rw [loadSettings_of_inForce hpath, Settings.load, hread] at hload
    cases hload
  | unlocated cause hcause =>
    rw [loadSettings_of_unlocated hcause] at hload
    cases hload

/-- A run whose settings are loaded fails over the summary of its configuration and nothing else. -/
theorem cutShort_of_fails (h : Fails tree arguments limit)
    (hload : loadSettings tree arguments = .ok settings) :
    ∃ config, Configuration.ofSettings settings = .ok config ∧ CutShort tree config limit := by
  cases h with
  | unreadable hunreadable => exact absurd hload hunreadable.loadSettings_ne
  | malformed path text fault hpath hread hsettings =>
    rw [loadSettings_of_inForce hpath, Settings.load, hread] at hload
    simp only [hsettings] at hload
    cases hload
  | cutShort other config hother hconfig hcut =>
    rw [hload, Except.ok.injEq] at hother
    exact ⟨config, hother ▸ hconfig, hcut⟩

/-! ## Endings -/

/-- The ways in which a run can end. -/
inductive Ends (tree : FileTree) (arguments : Arguments) (limit : Regex.Limit) : Outcome → Prop
  | misused (message : String) : Misused tree arguments → Ends tree arguments limit (.usage message)
  | failed (message output : String) : Fails tree arguments limit →
      Ends tree arguments limit ⟨.failed message, output⟩
  | complete (settings : Settings) (config : Configuration) (lines : List String) :
      loadSettings tree arguments = .ok settings → Configuration.ofSettings settings = .ok config →
      Summary tree config limit lines →
      Ends tree arguments limit ⟨.complete, Report.text ⟨lines, none⟩⟩

/-- All that settings are refused for lies in the configuration. -/
theorem isConfiguration_of_ofSettings {fault : Fault}
    (h : Configuration.ofSettings settings = .error fault) : fault.isConfiguration = true := by
  obtain ⟨cause, -, rfl⟩ := Configuration.ofSettings_eq_error_iff.1 h
  rfl

theorem ends_ofArguments (tree : FileTree) (arguments : Arguments) (limit : Regex.Limit) :
    Ends tree arguments limit (Outcome.ofArguments tree arguments limit) := by
  unfold Outcome.ofArguments
  cases hload : loadSettings tree arguments with
  | error fault => exact .failed _ _ (fails_of_loadSettings hload)
  | ok settings =>
    simp only [Outcome.ofSettings]
    cases hconfig : Configuration.ofSettings settings with
    | error fault =>
      simp only [isConfiguration_of_ofSettings hconfig, if_true]
      exact .misused _ ⟨settings, fault, hload, hconfig⟩
    | ok config =>
      have hreport : Report.Accounts (Summary tree config limit) (CutShort tree config limit) _ :=
        accounts_ofConfiguration hconfig
      simp only [Outcome.ofConfiguration]
      generalize Report.ofConfiguration tree config limit = report at hreport
      cases hreport with
      | complete lines hsummary => exact .complete settings config lines hload hconfig hsummary
      | cut lines fault hcut => exact .failed _ _ (.cutShort settings config hload hconfig hcut)

theorem not_fails_of_misused (h : Misused tree arguments) : ¬ Fails tree arguments limit := by
  obtain ⟨settings, fault, hload, hfault⟩ := h
  intro hfails
  obtain ⟨config, hconfig, -⟩ := cutShort_of_fails hfails hload
  rw [hfault] at hconfig
  cases hconfig

theorem not_fails_of_summary (hload : loadSettings tree arguments = .ok settings)
    (hconfig : Configuration.ofSettings settings = .ok config)
    (hsummary : Summary tree config limit lines) : ¬ Fails tree arguments limit := by
  intro hfails
  obtain ⟨other, hother, hcut⟩ := cutShort_of_fails hfails hload
  rw [hconfig, Except.ok.injEq] at hother
  exact hsummary.not_cutShort (hother ▸ hcut)

/-- The help begins with what the program is for. -/
theorem head?_helpText : helpText.toList.head? = some 'A' := by
  unfold helpText
  simp only [String.toList_append, List.head?_append]
  simp

/-- A summary begins with the mode. -/
theorem head?_text_of_summary (h : Summary tree config limit lines) :
    (Report.text ⟨lines, none⟩).toList.head? = some 'M' := by
  obtain ⟨dynamic, mode, -, -⟩ := h
  unfold Report.text Report.configurationLines
  simp only [List.cons_append, List.map_cons, String.join_cons, String.toList_append,
    List.head?_append]
  rfl

/-- No summary is taken for the usage text. -/
theorem text_ne_usage (h : Summary tree config limit lines) :
    Report.text ⟨lines, none⟩ ≠ helpText ++ "\n" := by
  intro htext
  have hfirst := head?_text_of_summary h
  rw [htext, String.toList_append, List.head?_append, head?_helpText] at hfirst
  cases hfirst

/-! ## The law -/

/-- What the status and the output of a run tell about its settings and its files. -/
structure StatusTells (tree : FileTree) (arguments : Arguments) (limit : Regex.Limit)
    (outcome : Outcome) : Prop where
  usage : outcome.status = 0 ∧ outcome.output = helpText ++ "\n" ↔ Misused tree arguments
  failure : outcome.status ≠ 0 ↔ Fails tree arguments limit
  /-- Every other run leaves a summary. -/
  summary : ¬ Misused tree arguments → ¬ Fails tree arguments limit →
    ∃ settings config lines, loadSettings tree arguments = .ok settings ∧
      Configuration.ofSettings settings = .ok config ∧ Summary tree config limit lines ∧
      outcome.status = 0 ∧ outcome = ⟨.complete, Report.text ⟨lines, none⟩⟩

theorem statusTells_of_ends {outcome : Outcome} (h : Ends tree arguments limit outcome) :
    StatusTells tree arguments limit outcome := by
  cases h with
  | misused message hmisused =>
    have hnot : ¬ Fails tree arguments limit := not_fails_of_misused hmisused
    constructor
    case usage => exact iff_of_true ⟨rfl, rfl⟩ hmisused
    case failure => exact iff_of_false (fun hstatus => hstatus rfl) hnot
    case summary => exact fun hother => absurd hmisused hother
  | failed message output hfails =>
    constructor
    case usage =>
      refine iff_of_false ?_ fun hmisused => not_fails_of_misused hmisused hfails
      rintro ⟨hstatus, -⟩
      cases hstatus
    case failure => exact iff_of_true Nat.one_ne_zero hfails
    case summary => exact fun _ hother => absurd hfails hother
  | complete settings config lines hload hconfig hsummary =>
    have hnot := not_fails_of_summary hload hconfig hsummary
    constructor
    case usage =>
      refine iff_of_false (fun htext => text_ne_usage hsummary htext.2) ?_
      rintro ⟨other, fault, hother, hfault⟩
      rw [hload, Except.ok.injEq] at hother
      rw [← hother, hconfig] at hfault
      cases hfault
    case failure => exact iff_of_false (fun hstatus => hstatus rfl) hnot
    case summary => exact fun _ _ => ⟨settings, config, lines, hload, hconfig, hsummary, rfl, rfl⟩

/-- A run whose arguments are understood has the status zero and the usage text when its settings are
refused, another status when a file that it needs fails it, and otherwise the status zero and a
summary. Settings are refused as a configuration and for no other fault, and a setup made from an
accepted configuration never is. This holds for whatever the files and the working directory are, and
whatever patterns the limit admits. -/
theorem the_exit_status_tells_how_a_run_ends {given : List String} {arguments : Arguments}
    (tree : FileTree) (limit : Regex.Limit) (h : Arguments.ofList given = .ok arguments) :
    StatusTells tree arguments limit (run tree given limit) ∧
    (∀ settings fault, Configuration.ofSettings settings = .error fault →
      fault.isConfiguration = true) ∧
    ∀ settings config levelOf cause, Configuration.ofSettings settings = .ok config →
      config.mode = .android →
      AndroidSetup.new config levelOf limit ≠ .error (.configuration cause) := by
  refine ⟨?_, fun _ _ => isConfiguration_of_ofSettings, ?_⟩
  · unfold run
    rw [h]
    exact statusTells_of_ends (ends_ofArguments tree arguments limit)
  · intro settings config levelOf cause hconfig hmode hnew
    obtain ⟨hjava, -⟩ :=
      ((AndroidSetup.follows_of_ofSettings hconfig levelOf limit).inputs cause).1 hnew
    rw [hmode] at hjava
    cases hjava

/-- Files with a platform and without a package. -/
def platformFiles : FileTree :=
  FileTree.empty.write ⟨"platforms/android-33/android.jar"⟩ ⟨#[]⟩

/-- The arguments of a run about a package. -/
def packageArguments : List String :=
  ["-r", "com.app.**", "-a", "app.apk", "-o", "out", "-p", "platforms"]

/-- What they mean. -/
def packageOptions : Arguments :=
  ⟨[(.patterns, "com.app.**"), (.applicationArtifacts, "app.apk"), (.outputDirectory, "out"),
    (.platformDirectory, "platforms")], [], none⟩

theorem loadSettings_packageOptions :
    loadSettings platformFiles packageOptions = .ok Configuration.packageSettings :=
  eq_ok_of_toOption (by decide +kernel)

/-- A run about a package that is not there fails over it. A run without arguments shows the usage
text, and does not fail, but in a working directory that has been removed it does. -/
theorem a_missing_package_fails_a_run :
    (run platformFiles packageArguments).status ≠ 0 ∧
    ((run platformFiles []).status = 0 ∧ (run platformFiles []).output = helpText ++ "\n") ∧
    (run { FileTree.empty with workingDirectory := .error .notFound } []).status ≠ 0 := by
  have hpackage : Arguments.ofList packageArguments = .ok packageOptions :=
    eq_ok_of_toOption (by decide +kernel)
  obtain ⟨hfailing, -⟩ := the_exit_status_tells_how_a_run_ends platformFiles _ hpackage
  have hnothing : Arguments.ofList [] = .ok Arguments.empty := rfl
  obtain ⟨hempty, -⟩ := the_exit_status_tells_how_a_run_ends platformFiles _ hnothing
  obtain ⟨hremoved, -⟩ := the_exit_status_tells_how_a_run_ends
    { FileTree.empty with workingDirectory := .error .notFound } _ hnothing
  have hindex : ClassIndex.openFile platformFiles ⟨"app.apk"⟩ =
      .error (.read ⟨"app.apk"⟩ .notFound) := by
    rfl
  refine ⟨hfailing.failure.2 ?_, hempty.usage.2 ?_,
    hremoved.failure.2 (.unreadable (.unlocated .notFound ⟨rfl, rfl⟩))⟩
  · exact .cutShort _ _ loadSettings_packageOptions Configuration.ofSettings_packageSettings
      (.noIndex _ _ rfl rfl hindex)
  · exact ⟨.unset, .configuration .missingPatterns, eq_ok_of_toOption (by decide +kernel), rfl⟩

end CommandLine

end AppBoundary
