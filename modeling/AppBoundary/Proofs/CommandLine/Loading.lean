-- The settings of a run: those of the command line over those of one file. The
-- file is the one that the command line names, or else the first default one
-- that exists, and no other file plays a part.
import AppBoundary.CommandLine.Run
import AppBoundary.Proofs.Sequencing
import AppBoundary.Proofs.Settings.Layers
import AppBoundary.Proofs.Text.Segments

namespace AppBoundary.CommandLine

variable {tree : FileTree} {arguments : Arguments} {path : Path}

/-! ## The file in force -/

/-- The settings file in force: the one that the command line names, or else the first of the default
names at which something stands in the working directory. -/
inductive InForce (tree : FileTree) (arguments : Arguments) : Path → Prop
  | named (path : Path) : arguments.path? .settingsFile = some path → InForce tree arguments path
  | found (directory : Path) (before : List String) (name : String) (after : List String) :
      arguments.path? .settingsFile = none → tree.workingDirectory = .ok directory →
      Settings.defaultNames = before ++ name :: after →
      (∀ earlier ∈ before, tree.pathExists (directory.join earlier) = false) →
      tree.pathExists (directory.join name) = true → InForce tree arguments (directory.join name)

/-- The command line names no settings file, and it cannot be told which directory would hold a default
one. -/
def Unlocated (tree : FileTree) (arguments : Arguments) (cause : ReadFault) : Prop :=
  arguments.path? .settingsFile = none ∧ tree.workingDirectory = .error cause

/-- The first of the default files in a directory. -/
def defaultFile? (tree : FileTree) (directory : Path) : Option Path :=
  (Settings.defaultNames.map directory.join).find? tree.pathExists

theorem defaultFile?_eq_some_iff {directory : Path} :
    defaultFile? tree directory = some path ↔
      ∃ before name after, Settings.defaultNames = before ++ name :: after ∧
        (∀ earlier ∈ before, tree.pathExists (directory.join earlier) = false) ∧
        tree.pathExists (directory.join name) = true ∧ directory.join name = path := by
  rw [defaultFile?, List.find?_map, Option.map_eq_some_iff]
  simp only [List.find?_eq_some_iff_append, Function.comp_apply, Bool.not_eq_true']
  constructor
  · rintro ⟨name, ⟨hexists, before, after, hnames, hbefore⟩, hpath⟩
    exact ⟨before, name, after, hnames, hbefore, hexists, hpath⟩
  · rintro ⟨before, name, after, hnames, hbefore, hexists, hpath⟩
    exact ⟨name, ⟨hexists, before, after, hnames, hbefore⟩, hpath⟩

theorem inForce_of_named {named : Path} (h : arguments.path? .settingsFile = some named) :
    InForce tree arguments path ↔ path = named := by
  constructor
  · rintro (⟨_, hpath⟩ | ⟨_, _, _, _, hnone, _⟩)
    · exact Option.some.inj (hpath.symm.trans h)
    · rw [h] at hnone
      cases hnone
  · rintro rfl
    exact .named path h

theorem inForce_of_directory {directory : Path} (hnone : arguments.path? .settingsFile = none)
    (hdirectory : tree.workingDirectory = .ok directory) :
    InForce tree arguments path ↔ defaultFile? tree directory = some path := by
  rw [defaultFile?_eq_some_iff]
  constructor
  · rintro (⟨_, hpath⟩ | ⟨other, before, name, after, _, hother, hnames, hbefore, hexists⟩)
    · rw [hnone] at hpath
      cases hpath
    · rw [hdirectory, Except.ok.injEq] at hother
      subst hother
      exact ⟨before, name, after, hnames, hbefore, hexists, rfl⟩
  · rintro ⟨before, name, after, hnames, hbefore, hexists, rfl⟩
    exact .found directory before name after hnone hdirectory hnames hbefore hexists

theorem Unlocated.not_inForce {cause : ReadFault} (h : Unlocated tree arguments cause) :
    ¬ InForce tree arguments path := by
  obtain ⟨hnone, hcause⟩ := h
  rintro (⟨_, hpath⟩ | ⟨_, _, _, _, _, hdirectory, _⟩)
  · rw [hnone] at hpath
    cases hpath
  · rw [hcause] at hdirectory
    cases hdirectory

theorem InForce.unique {other : Path} (h : InForce tree arguments path)
    (hother : InForce tree arguments other) : path = other := by
  cases hnamed : arguments.path? .settingsFile with
  | some named => rw [(inForce_of_named hnamed).1 h, (inForce_of_named hnamed).1 hother]
  | none =>
    cases hdirectory : tree.workingDirectory with
    | error cause => exact absurd h (Unlocated.not_inForce ⟨hnamed, hdirectory⟩)
    | ok directory =>
      rw [inForce_of_directory hnamed hdirectory] at h hother
      exact Option.some.inj (h.symm.trans hother)

/-! ## Loading -/

/-- The settings of a default file, if there is one. -/
theorem loadDefaults_eq (tree : FileTree) (directory : Path) :
    Settings.loadDefaults tree directory =
      match defaultFile? tree directory with
      | some path => Settings.load tree path
      | none => .ok .unset :=
  rfl

theorem settingsBelow_of_inForce (h : InForce tree arguments path) :
    settingsBelow tree arguments = (Settings.load tree path).mapError .file := by
  unfold settingsBelow
  cases hnamed : arguments.path? .settingsFile with
  | some named => rw [(inForce_of_named hnamed).1 h]
  | none =>
    cases hdirectory : tree.workingDirectory with
    | error cause => exact absurd h (Unlocated.not_inForce ⟨hnamed, hdirectory⟩)
    | ok directory =>
      rw [inForce_of_directory hnamed hdirectory] at h
      simp only [loadDefaults_eq, h]

/-- The settings of the file in force, under those of the command line. -/
theorem loadSettings_of_inForce (h : InForce tree arguments path) :
    loadSettings tree arguments =
      ((Settings.load tree path).mapError .file).map (·.merge arguments.settings) := by
  rw [loadSettings, settingsBelow_of_inForce h]
  cases Settings.load tree path <;> rfl

/-- Where it cannot be told where to look for a file, there are no settings. -/
theorem loadSettings_of_unlocated {cause : ReadFault} (h : Unlocated tree arguments cause) :
    loadSettings tree arguments = .error (.workingDirectory cause) := by
  obtain ⟨hnamed, hcause⟩ := h
  unfold loadSettings settingsBelow
  rw [hnamed, hcause]
  rfl

/-- Without a file in a directory that is known there are only the settings of the command line. -/
theorem loadSettings_of_no_file (h : ∀ path, ¬ InForce tree arguments path)
    (hlocated : ∀ cause, ¬ Unlocated tree arguments cause) :
    loadSettings tree arguments = .ok arguments.settings := by
  unfold loadSettings settingsBelow
  cases hnamed : arguments.path? .settingsFile with
  | some named => exact absurd (.named named hnamed) (h named)
  | none =>
    cases hdirectory : tree.workingDirectory with
    | error cause => exact absurd ⟨hnamed, hdirectory⟩ (hlocated cause)
    | ok directory =>
      have hnone : defaultFile? tree directory = none := by
        rw [Option.eq_none_iff_forall_ne_some]
        intro path hpath
        exact h path ((inForce_of_directory hnamed hdirectory).2 hpath)
      simp only [loadDefaults_eq, hnone]
      exact congrArg Except.ok (Settings.unset_merge arguments.settings)

/-! ## The command line -/

/-- What a list option sets. Without the option, and with nothing but separators in it, nothing is
set. -/
inductive SetsList (arguments : Arguments) (option : ValueOption) : List String → Prop
  | absent : arguments.value? option = none → SetsList arguments option []
  | separators (value : String) : arguments.value? option = some value →
      (∀ c ∈ value.toList, c = ':') → SetsList arguments option []
  | segments (value : String) : arguments.value? option = some value →
      (∃ c ∈ value.toList, c ≠ ':') → Settings.splitList value ≠ [] →
      SetsList arguments option (Settings.splitList value)

theorem setsList_list (arguments : Arguments) (option : ValueOption) :
    SetsList arguments option (arguments.list option) := by
  unfold Arguments.list
  cases hvalue : arguments.value? option with
  | none => exact .absent hvalue
  | some value =>
    have hnil : Settings.splitList value = [] ↔ ∀ c ∈ value.toList, c = ':' :=
      Text.segments_eq_nil_iff
    simp only [Option.map_some, Option.getD_some]
    by_cases h : ∀ c ∈ value.toList, c = ':'
    · rw [hnil.2 h]
      exact .separators value hvalue h
    · refine .segments value hvalue ?_ (fun hsplit => h (hnil.1 hsplit))
      simpa using h

/-- Every option of the command line sets its own field, and no other. -/
structure SetBy (arguments : Arguments) (settings : Settings) : Prop where
  patterns : SetsList arguments .patterns settings.patterns
  mainClass : settings.mainClass = arguments.value? .mainClass
  applicationArtifacts :
    SetsList arguments .applicationArtifacts (settings.applicationArtifacts.map (·.text))
  libraryArtifacts :
    SetsList arguments .libraryArtifacts (settings.libraryArtifacts.map (·.text))
  dynamicClassesFile :
    settings.dynamicClassesFile.map (·.text) = arguments.value? .dynamicClassesFile
  reflectionFactsFile :
    settings.reflectionFactsFile.map (·.text) = arguments.value? .reflectionFactsFile
  outputDirectory : settings.outputDirectory.map (·.text) = arguments.value? .outputDirectory
  runtimeDirectory : settings.runtimeDirectory.map (·.text) = arguments.value? .runtimeDirectory
  platformDirectory : settings.platformDirectory.map (·.text) = arguments.value? .platformDirectory

theorem map_text_list (arguments : Arguments) (option : ValueOption) :
    ((arguments.list option).map Path.mk).map (·.text) = arguments.list option := by
  rw [List.map_map]
  exact List.map_id _

theorem map_text_path? (arguments : Arguments) (option : ValueOption) :
    (arguments.path? option).map (·.text) = arguments.value? option := by
  unfold Arguments.path?
  rw [Option.map_map]
  exact congrFun Option.map_id _

theorem setBy_settings (arguments : Arguments) : SetBy arguments arguments.settings where
  patterns := setsList_list arguments .patterns
  mainClass := rfl
  applicationArtifacts := by
    unfold Arguments.settings
    rw [map_text_list]
    exact setsList_list arguments .applicationArtifacts
  libraryArtifacts := by
    unfold Arguments.settings
    rw [map_text_list]
    exact setsList_list arguments .libraryArtifacts
  dynamicClassesFile := map_text_path? arguments .dynamicClassesFile
  reflectionFactsFile := map_text_path? arguments .reflectionFactsFile
  outputDirectory := map_text_path? arguments .outputDirectory
  runtimeDirectory := map_text_path? arguments .runtimeDirectory
  platformDirectory := map_text_path? arguments .platformDirectory

/-! ## The law -/

/-- Of settings merged one after the other, each field is that of the last layer that sets it, and the
grouping of the layers changes nothing. So a run has each field from its command line, where that sets
it, and otherwise from the one settings file in force. A file in force that cannot be loaded fails the
run's settings, whatever other files there are, and so does a working directory that cannot be told
where no file is named. -/
theorem the_last_layer_that_sets_a_field_decides :
    (∀ first rest, Settings.Resolves (first :: rest) (rest.foldl Settings.merge first)) ∧
    (∀ first second third : Settings,
      (first.merge second).merge third = first.merge (second.merge third)) ∧
    (∀ settings : Settings, settings.merge settings = settings ∧
      Settings.unset.merge settings = settings ∧ settings.merge Settings.unset = settings) ∧
    (∀ group other : Settings.Grouping, group.layers = other.layers → group.merged = other.merged) ∧
    ∀ tree arguments,
      SetBy arguments arguments.settings ∧
      (∀ path other, InForce tree arguments path → InForce tree arguments other → path = other) ∧
      (∀ path, InForce tree arguments path →
        (∀ fault, Settings.load tree path = .error fault →
          loadSettings tree arguments = .error (.file fault)) ∧
        ∀ file, Settings.load tree path = .ok file →
          ∃ settings, loadSettings tree arguments = .ok settings ∧
            Settings.Resolves [file, arguments.settings] settings) ∧
      (∀ cause, Unlocated tree arguments cause →
        loadSettings tree arguments = .error (.workingDirectory cause)) ∧
      ((∀ path, ¬ InForce tree arguments path) → (∀ cause, ¬ Unlocated tree arguments cause) →
        loadSettings tree arguments = .ok arguments.settings) := by
  refine ⟨Settings.resolves_foldl, Settings.merge_assoc, ?_, ?_, ?_⟩
  · intro settings
    exact ⟨settings.merge_self, settings.unset_merge, settings.merge_unset⟩
  · intro group other h
    exact Settings.Grouping.merged_eq_of_layers_eq h
  · intro tree arguments
    refine ⟨setBy_settings arguments, fun path other => InForce.unique, ?_,
      fun cause => loadSettings_of_unlocated, loadSettings_of_no_file⟩
    intro path hpath
    have hload := loadSettings_of_inForce hpath
    constructor
    · intro fault hfault
      rw [hload, hfault]
      rfl
    · intro file hfile
      rw [hfile] at hload
      exact ⟨_, hload, Settings.resolves_foldl file [arguments.settings]⟩

/-- Two default files. The first names a main class and an output directory, the second another
output directory and a library. -/
def twoFiles : FileTree where
  entries :=
    [([".appscope.toml"],
      .file "main-class = \"file.Main\"\noutput-directory = \"out\"".toUTF8),
    (["appscope.toml"],
      .file "output-directory = \"other\"\nlibrary-jars = [\"lib.jar\"]".toUTF8)]

/-- The same files, of which the first may not be read. -/
def closedFile : FileTree :=
  { twoFiles with mayRead := fun place => place != [".appscope.toml"] }

/-- What the first of the files sets. -/
def firstFile : Settings :=
  { Settings.unset with mainClass := some "file.Main", outputDirectory := some ⟨"out"⟩ }

/-- A command line that names a main class, and gives an empty list of libraries. -/
def mainClassArguments : Arguments :=
  ⟨[(.mainClass, "cli.Main"), (.libraryArtifacts, "::")], [], none⟩

/-- The first file is in force whether it may be read or not. -/
theorem inForce_firstFile (mayRead : List String → Bool) :
    InForce { twoFiles with mayRead := mayRead } mainClassArguments ⟨"./.appscope.toml"⟩ := by
  refine .found ⟨"."⟩ [".appscope.yml", ".appscope.yaml"] ".appscope.toml" _ rfl rfl rfl ?_ rfl
  intro earlier hearlier
  rcases List.mem_pair.1 hearlier with rfl | rfl
  · rfl
  · rfl

theorem load_firstFile : Settings.load twoFiles ⟨"./.appscope.toml"⟩ = .ok firstFile :=
  eq_ok_of_toOption (by decide +kernel)

theorem load_closedFile : Settings.load closedFile ⟨"./.appscope.toml"⟩ =
    .error (.unreadable ⟨"./.appscope.toml"⟩) := by
  rfl

/-- The command line's main class wins over that of the first file, the output directory is the first
file's, and the second file's library is not seen. Where the first file may not be read, the same command
line gives no settings, and none where the working directory has been removed. -/
theorem two_files_and_a_command_line :
    (∃ settings, loadSettings twoFiles mainClassArguments = .ok settings ∧
      settings.mainClass = some "cli.Main" ∧ settings.outputDirectory = some ⟨"out"⟩ ∧
      settings.libraryArtifacts = []) ∧
    loadSettings closedFile mainClassArguments =
      .error (.file (.unreadable ⟨"./.appscope.toml"⟩)) ∧
    loadSettings { twoFiles with workingDirectory := .error .notFound } mainClassArguments =
      .error (.workingDirectory .notFound) := by
  obtain ⟨-, -, -, -, hrun⟩ := the_last_layer_that_sets_a_field_decides
  obtain ⟨-, -, hforce, -⟩ := hrun twoFiles mainClassArguments
  obtain ⟨-, -, hclosed, -⟩ := hrun closedFile mainClassArguments
  obtain ⟨-, -, -, hunlocated, -⟩ :=
    hrun { twoFiles with workingDirectory := .error .notFound } mainClassArguments
  obtain ⟨settings, hsettings, hresolves⟩ := (hforce _ (inForce_firstFile _)).2 _ load_firstFile
  refine ⟨⟨settings, hsettings, ?_, ?_, ?_⟩, (hclosed _ (inForce_firstFile _)).1 _ load_closedFile,
    hunlocated _ ⟨rfl, rfl⟩⟩
  · exact hresolves.mainClass.unique (.set [_] _ [] rfl (by decide) (by simp))
  · exact hresolves.outputDirectory.unique (.set [] _ [_] rfl (by decide) (by decide))
  · exact hresolves.libraryArtifacts.unique (.unset (by decide))

end AppBoundary.CommandLine
