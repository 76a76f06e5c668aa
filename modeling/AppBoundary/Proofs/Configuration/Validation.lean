-- Which settings make a configuration. The objections to settings are raised in
-- a fixed order, and the first that holds is the fault. Settings without any are
-- kept as they are, beside a mode that fits their artifacts.
import AppBoundary.Configuration
import AppBoundary.Proofs.Pattern.Packages
import AppBoundary.Proofs.Sequencing

namespace AppBoundary

/-! ## Objections -/

/-- What a cause of refusal says of settings. -/
def Objects (settings : Settings) : ConfigurationFault → Prop
  | .missingPatterns => settings.patterns = []
  | .missingArtifacts => settings.applicationArtifacts = []
  | .missingOutputDirectory => settings.outputDirectory = none
  | .blankPattern => ∃ entry ∈ settings.patterns, ∀ c ∈ entry.toList, Text.isBlankChar c = true
  | .severalArtifacts =>
    (∃ artifact ∈ settings.applicationArtifacts, artifact.isPackage = true) ∧
      1 < settings.applicationArtifacts.length
  | .missingPlatformDirectory =>
    (∃ artifact ∈ settings.applicationArtifacts, artifact.isPackage = true) ∧
      settings.platformDirectory = none
  | .missingRuntimeOrMainClass =>
    (∀ artifact ∈ settings.applicationArtifacts, artifact.isPackage = false) ∧
      (settings.runtimeDirectory = none ∨ settings.mainClass = none)
  | .noPatterns | .noPackage => False

instance (settings : Settings) : DecidablePred (Objects settings)
  | .missingPatterns => inferInstanceAs (Decidable (_ = _))
  | .missingArtifacts => inferInstanceAs (Decidable (_ = _))
  | .missingOutputDirectory => inferInstanceAs (Decidable (_ = _))
  | .blankPattern => inferInstanceAs (Decidable (∃ entry ∈ _, _))
  | .severalArtifacts => inferInstanceAs (Decidable (_ ∧ _))
  | .missingPlatformDirectory => inferInstanceAs (Decidable (_ ∧ _))
  | .missingRuntimeOrMainClass => inferInstanceAs (Decidable (_ ∧ _))
  | .noPatterns | .noPackage => inferInstanceAs (Decidable False)

/-- The objections in the order in which they are raised. -/
def objections : List ConfigurationFault :=
  [.missingPatterns, .missingArtifacts, .missingOutputDirectory, .blankPattern, .severalArtifacts,
   .missingPlatformDirectory, .missingRuntimeOrMainClass]

/-- The first objection that holds of settings. -/
def firstObjection? (settings : Settings) : Option ConfigurationFault :=
  objections.find? fun cause => Objects settings cause

/-- One objection after the other is asked for. -/
theorem find?_objection_cons (settings : Settings) (cause : ConfigurationFault)
    (rest : List ConfigurationFault) :
    ((cause :: rest).find? fun cause => Objects settings cause) =
      if Objects settings cause then some cause
      else rest.find? fun cause => Objects settings cause := by
  by_cases h : Objects settings cause
  · simp [h]
  · simp [h]

theorem mem_objections_of_objects {settings : Settings} {cause : ConfigurationFault}
    (h : Objects settings cause) : cause ∈ objections := by
  cases cause with
  | noPatterns => exact h.elim
  | noPackage => exact h.elim
  | _ => decide

theorem firstObjection?_eq_none_iff {settings : Settings} :
    firstObjection? settings = none ↔ ∀ cause, ¬ Objects settings cause := by
  simp only [firstObjection?, List.find?_eq_none, decide_eq_true_eq]
  exact ⟨fun h cause hcause => h cause (mem_objections_of_objects hcause) hcause,
    fun h cause _ => h cause⟩

/-! ## The single checks -/

/-- A blank entry refuses its list, whatever stands around it. -/
theorem RuleSet.parse_of_blank {entries : List String}
    (h : ∃ entry ∈ entries, ∀ c ∈ entry.toList, Text.isBlankChar c = true) :
    RuleSet.parse entries = .error (.configuration .blankPattern) := by
  have hmapM : entries.mapM Rule.parse = .error (.configuration .blankPattern) := by
    induction entries with
    | nil =>
      obtain ⟨entry, hentry, -⟩ := h
      cases hentry
    | cons first rest ih =>
      rw [List.mapM_cons]
      cases hfirst : Text.isBlank first with
      | true =>
        rw [Rule.parse, hfirst]
        rfl
      | false =>
        obtain ⟨entry, hentry, hblank⟩ := h
        rcases List.mem_cons.1 hentry with rfl | hentry
        · rw [(Text.isBlank_iff entry).2 hblank] at hfirst
          cases hfirst
        · rw [(Rule.parse_eq_ok_iff first _).2 ⟨hfirst, rfl⟩, ih ⟨entry, hentry, hblank⟩]
          rfl
  have hne : entries.isEmpty = false := by
    obtain ⟨entry, hentry, -⟩ := h
    cases entries with
    | nil => cases hentry
    | cons => rfl
  rw [RuleSet.parse, hne, hmapM]
  rfl

theorem RuleSet.parse_of_not_blank {entries : List String} (hne : entries ≠ [])
    (h : ¬ ∃ entry ∈ entries, ∀ c ∈ entry.toList, Text.isBlankChar c = true) :
    RuleSet.parse entries = .ok ⟨entries.map ruleOf⟩ := by
  refine RuleSet.parse_eq_ok_iff.2 ⟨⟨hne, fun entry hentry => ?_⟩, rfl⟩
  rw [Bool.eq_false_iff, ne_eq, Text.isBlank_iff]
  exact fun hblank => h ⟨entry, hentry, hblank⟩

namespace RunMode

variable {artifacts : List Path} {hasPlatform hasRuntime hasMainClass : Bool}

theorem detect_of_package (h : ∃ artifact ∈ artifacts, artifact.isPackage = true) :
    detect artifacts hasPlatform hasRuntime hasMainClass =
      if 1 < artifacts.length then .error (.configuration .severalArtifacts)
      else if hasPlatform = false then .error (.configuration .missingPlatformDirectory)
      else .ok .android := by
  rw [detect, if_pos (List.any_eq_true.2 h)]
  simp only [Bool.not_eq_true']

theorem detect_of_no_package (h : ∀ artifact ∈ artifacts, artifact.isPackage = false) :
    detect artifacts hasPlatform hasRuntime hasMainClass =
      if hasRuntime = false ∨ hasMainClass = false then
        .error (.configuration .missingRuntimeOrMainClass)
      else .ok .java := by
  have hnone : artifacts.any Path.isPackage = false := by
    rw [List.any_eq_false]
    simpa using h
  rw [detect, hnone]
  simp only [Bool.false_eq_true, if_false, Bool.not_eq_true', Bool.and_eq_false_iff]

end RunMode

/-! ## What a configuration keeps -/

namespace Configuration

/-- A configuration reports every setting as it was given. -/
structure Keeps (settings : Settings) (config : Configuration) : Prop where
  patterns : config.patterns = settings.patterns
  rules : RuleSet.parse settings.patterns = .ok config.rules
  applicationArtifacts : config.applicationArtifacts = settings.applicationArtifacts
  libraryArtifacts : config.libraryArtifacts = settings.libraryArtifacts
  dynamicClassesFile : config.dynamicClassesFile = settings.dynamicClassesFile
  reflectionFactsFile : config.reflectionFactsFile = settings.reflectionFactsFile
  outputDirectory : some config.outputDirectory = settings.outputDirectory
  runtimeDirectory : config.runtimeDirectory = settings.runtimeDirectory
  platformDirectory : config.platformDirectory = settings.platformDirectory
  mainClass : config.mainClass = settings.mainClass

/-- The mode of a configuration fits its artifacts: a run about Android has one artifact, a package,
and the platforms for it; every other run has none among its artifacts, and has a runtime and a main
class. -/
inductive FitsMode (config : Configuration) : Prop
  | android (package directory : Path) : config.mode = .android →
      config.applicationArtifacts = [package] → package.isPackage = true →
      config.platformDirectory = some directory → FitsMode config
  | java (directory : Path) (mainClass : String) : config.mode = .java →
      (∀ artifact ∈ config.applicationArtifacts, artifact.isPackage = false) →
      config.runtimeDirectory = some directory → config.mainClass = some mainClass →
      FitsMode config

variable {settings : Settings} {config : Configuration}

/-- The checks behind the required settings. -/
theorem ofSettings_of_required {directory : Path} (hpatterns : settings.patterns ≠ [])
    (hartifacts : settings.applicationArtifacts ≠ [])
    (houtput : settings.outputDirectory = some directory) :
    ofSettings settings = do
      let rules ← RuleSet.parse settings.patterns
      let mode ← RunMode.detect settings.applicationArtifacts settings.platformDirectory.isSome
        settings.runtimeDirectory.isSome settings.mainClass.isSome
      return ⟨settings.patterns, rules, settings.applicationArtifacts, settings.libraryArtifacts,
        settings.dynamicClassesFile, settings.reflectionFactsFile, directory,
        settings.runtimeDirectory, settings.platformDirectory, settings.mainClass, mode⟩ := by
  rw [ofSettings, List.isEmpty_eq_false_iff.2 hpatterns, List.isEmpty_eq_false_iff.2 hartifacts,
    houtput]
  rfl

/-- The last objections are about the mode. -/
theorem detect_of_objection {cause : ConfigurationFault}
    (h : ([.severalArtifacts, .missingPlatformDirectory, .missingRuntimeOrMainClass].find?
      fun cause => Objects settings cause) = some cause) :
    RunMode.detect settings.applicationArtifacts settings.platformDirectory.isSome
      settings.runtimeDirectory.isSome settings.mainClass.isSome = .error (.configuration cause) := by
  by_cases hseveral : Objects settings .severalArtifacts
  · rw [find?_objection_cons, if_pos hseveral, Option.some.injEq] at h
    rw [← h, RunMode.detect_of_package hseveral.1, if_pos hseveral.2]
  rw [find?_objection_cons, if_neg hseveral] at h
  by_cases hplatform : Objects settings .missingPlatformDirectory
  · rw [find?_objection_cons, if_pos hplatform, Option.some.injEq] at h
    have hone : ¬ 1 < settings.applicationArtifacts.length :=
      fun hlength => hseveral ⟨hplatform.1, hlength⟩
    rw [← h, RunMode.detect_of_package hplatform.1, if_neg hone, hplatform.2]
    rfl
  rw [find?_objection_cons, if_neg hplatform] at h
  by_cases hruntime : Objects settings .missingRuntimeOrMainClass
  · rw [find?_objection_cons, if_pos hruntime, Option.some.injEq] at h
    have hmissing : settings.runtimeDirectory.isSome = false ∨ settings.mainClass.isSome = false :=
      hruntime.2.imp (fun hnone => by rw [hnone]; rfl) (fun hnone => by rw [hnone]; rfl)
    rw [← h, RunMode.detect_of_no_package hruntime.1, if_pos hmissing]
  rw [find?_objection_cons, if_neg hruntime, List.find?_nil] at h
  cases h

/-- The first objection that holds is the fault. -/
theorem ofSettings_of_objection {cause : ConfigurationFault}
    (h : firstObjection? settings = some cause) :
    ofSettings settings = .error (.configuration cause) := by
  rw [firstObjection?, objections] at h
  by_cases hpatterns : Objects settings .missingPatterns
  · rw [find?_objection_cons, if_pos hpatterns, Option.some.injEq] at h
    have hpatterns : settings.patterns = [] := hpatterns
    rw [← h, ofSettings, hpatterns]
    rfl
  rw [find?_objection_cons, if_neg hpatterns] at h
  have hsome : settings.patterns.isEmpty = false := List.isEmpty_eq_false_iff.2 hpatterns
  by_cases hartifacts : Objects settings .missingArtifacts
  · rw [find?_objection_cons, if_pos hartifacts, Option.some.injEq] at h
    have hartifacts : settings.applicationArtifacts = [] := hartifacts
    rw [← h, ofSettings, hsome, hartifacts]
    rfl
  rw [find?_objection_cons, if_neg hartifacts] at h
  by_cases houtput : Objects settings .missingOutputDirectory
  · rw [find?_objection_cons, if_pos houtput, Option.some.injEq] at h
    have hartifacts : settings.applicationArtifacts.isEmpty = false :=
      List.isEmpty_eq_false_iff.2 hartifacts
    have houtput : settings.outputDirectory = none := houtput
    rw [← h, ofSettings, hsome, hartifacts, houtput]
    rfl
  rw [find?_objection_cons, if_neg houtput] at h
  obtain ⟨directory, houtput⟩ := Option.ne_none_iff_exists'.1 houtput
  rw [ofSettings_of_required hpatterns hartifacts houtput]
  by_cases hblank : Objects settings .blankPattern
  · rw [find?_objection_cons, if_pos hblank, Option.some.injEq] at h
    rw [← h, RuleSet.parse_of_blank hblank]
    rfl
  rw [find?_objection_cons, if_neg hblank] at h
  rw [RuleSet.parse_of_not_blank hpatterns hblank, detect_of_objection h]
  rfl

/-- Settings without an objection become a configuration. -/
theorem ofSettings_of_none (h : ∀ cause, ¬ Objects settings cause) :
    ∃ config, ofSettings settings = .ok config ∧ Keeps settings config ∧ FitsMode config := by
  have hpatterns : settings.patterns ≠ [] := h .missingPatterns
  have hartifacts : settings.applicationArtifacts ≠ [] := h .missingArtifacts
  obtain ⟨directory, houtput⟩ := Option.ne_none_iff_exists'.1 (h .missingOutputDirectory)
  have hrules := RuleSet.parse_of_not_blank hpatterns (h .blankPattern)
  rw [ofSettings_of_required hpatterns hartifacts houtput, hrules]
  by_cases hpackage : ∃ artifact ∈ settings.applicationArtifacts, artifact.isPackage = true
  · have hone : ¬ 1 < settings.applicationArtifacts.length :=
      fun hlength => h .severalArtifacts ⟨hpackage, hlength⟩
    obtain ⟨platforms, hplatforms⟩ := Option.ne_none_iff_exists'.1
      fun hnone => h .missingPlatformDirectory ⟨hpackage, hnone⟩
    rw [RunMode.detect_of_package hpackage, if_neg hone, hplatforms]
    refine ⟨_, rfl, ⟨rfl, hrules, rfl, rfl, rfl, rfl, houtput.symm, rfl, hplatforms.symm, rfl⟩, ?_⟩
    obtain ⟨package, hmem, hpackage⟩ := hpackage
    have hsingle : settings.applicationArtifacts = [package] := by
      match hlist : settings.applicationArtifacts, hmem with
      | [artifact], hmem => rw [List.mem_singleton.1 hmem]
      | first :: second :: rest, _ => simp [hlist] at hone
    exact .android package platforms rfl hsingle hpackage rfl
  · have hnone : ∀ artifact ∈ settings.applicationArtifacts, artifact.isPackage = false := by
      intro artifact hmem
      rw [Bool.eq_false_iff]
      exact fun htrue => hpackage ⟨artifact, hmem, htrue⟩
    have hmissing : ¬ (settings.runtimeDirectory = none ∨ settings.mainClass = none) :=
      fun hmissing => h .missingRuntimeOrMainClass ⟨hnone, hmissing⟩
    obtain ⟨hruntime, hmain⟩ := not_or.1 hmissing
    obtain ⟨runtime, hruntime⟩ := Option.ne_none_iff_exists'.1 hruntime
    obtain ⟨mainClass, hmain⟩ := Option.ne_none_iff_exists'.1 hmain
    rw [RunMode.detect_of_no_package hnone, hruntime, hmain]
    refine ⟨_, rfl,
      ⟨rfl, hrules, rfl, rfl, rfl, rfl, houtput.symm, hruntime.symm, rfl, hmain.symm⟩, ?_⟩
    exact .java runtime mainClass rfl hnone rfl rfl

end Configuration

end AppBoundary
