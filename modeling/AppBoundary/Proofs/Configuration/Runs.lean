-- What follows from an accepted configuration: its mode says what its artifacts
-- are, and the order of the artifacts plays no part in it.
import AppBoundary.Proofs.Configuration.Validation

namespace AppBoundary

/-! ## Modes -/

namespace Configuration

variable {settings : Settings} {config : Configuration}

/-- The mode of a configuration says what the artifacts of its settings are, and that the inputs of
that mode are there. The only artifact of an Android run is its package. -/
structure ModeTells (settings : Settings) (config : Configuration) : Prop where
  android : config.mode = .android ↔
    ∃ package, settings.applicationArtifacts = [package] ∧ package.isPackage = true
  java : config.mode = .java ↔
    ∀ artifact ∈ settings.applicationArtifacts, artifact.isPackage = false
  platforms : config.mode = .android → settings.platformDirectory ≠ none
  runtime : config.mode = .java → settings.runtimeDirectory ≠ none ∧ settings.mainClass ≠ none
  package : ∀ package, config.package? = some package ↔
    config.mode = .android ∧ settings.applicationArtifacts = [package]
  noPackage : config.package? = none ↔ config.mode = .java

theorem package?_of_android {package : Path} (hmode : config.mode = .android)
    (hsingle : config.applicationArtifacts = [package]) : config.package? = some package := by
  rw [package?, hmode, hsingle]
  rfl

theorem package?_of_java (hmode : config.mode = .java) : config.package? = none := by
  rw [package?, hmode]

theorem modeTells_of_fits (hkeeps : Keeps settings config) (hfits : FitsMode config) :
    ModeTells settings config := by
  have hartifacts := hkeeps.applicationArtifacts
  cases hfits with
  | android package directory hmode hsingle hpackage hdirectory =>
    have hpackage? := package?_of_android hmode hsingle
    rw [hartifacts] at hsingle
    constructor
    case android => exact iff_of_true hmode ⟨package, hsingle, hpackage⟩
    case java =>
      refine iff_of_false (by rw [hmode]; decide) fun hnone => ?_
      rw [hnone package (by simp [hsingle])] at hpackage
      cases hpackage
    case platforms =>
      intro _
      rw [← hkeeps.platformDirectory, hdirectory]
      exact Option.some_ne_none _
    case runtime =>
      intro hjava
      rw [hmode] at hjava
      cases hjava
    case package =>
      intro other
      simp only [hpackage?, hsingle, hmode, Option.some.injEq, List.cons.injEq, and_true, true_and]
    case noPackage => simp [hpackage?, hmode]
  | java directory mainClass hmode hnone hdirectory hmain =>
    have hpackage? := package?_of_java hmode
    rw [hartifacts] at hnone
    constructor
    case android =>
      refine iff_of_false (by rw [hmode]; decide) ?_
      rintro ⟨package, hsingle, hpackage⟩
      rw [hnone package (by simp [hsingle])] at hpackage
      cases hpackage
    case java => exact iff_of_true hmode hnone
    case platforms =>
      intro handroid
      rw [hmode] at handroid
      cases handroid
    case runtime =>
      intro _
      rw [← hkeeps.runtimeDirectory, ← hkeeps.mainClass, hdirectory, hmain]
      exact ⟨Option.some_ne_none _, Option.some_ne_none _⟩
    case package => simp [hpackage?, hmode]
    case noPackage => exact iff_of_true hpackage? hmode

/-! ## Acceptance -/

/-- What the outcome of the checks says of the settings. -/
theorem fits_of_ofSettings (h : ofSettings settings = .ok config) :
    Keeps settings config ∧ FitsMode config := by
  cases hfirst : firstObjection? settings with
  | some cause =>
    rw [ofSettings_of_objection hfirst] at h
    cases h
  | none =>
    obtain ⟨accepted, haccepted, hfacts⟩ := ofSettings_of_none (firstObjection?_eq_none_iff.1 hfirst)
    rw [haccepted, Except.ok.injEq] at h
    exact h ▸ hfacts

/-- An accepted Android configuration has one artifact, a package, and the platforms for it. -/
theorem exists_inputs_of_android (h : ofSettings settings = .ok config)
    (hmode : config.mode = .android) :
    ∃ package directory, config.applicationArtifacts = [package] ∧ package.isPackage = true ∧
      config.platformDirectory = some directory := by
  obtain ⟨-, hfits⟩ := fits_of_ofSettings h
  cases hfits with
  | android package directory _ hsingle hpackage hdirectory =>
    exact ⟨package, directory, hsingle, hpackage, hdirectory⟩
  | java _ _ hjava =>
    rw [hmode] at hjava
    cases hjava

theorem ofSettings_eq_error_iff {fault : Fault} :
    ofSettings settings = .error fault ↔
      ∃ cause, firstObjection? settings = some cause ∧ fault = .configuration cause := by
  constructor
  · intro h
    cases hfirst : firstObjection? settings with
    | some cause =>
      rw [ofSettings_of_objection hfirst, Except.error.injEq] at h
      exact ⟨cause, rfl, h.symm⟩
    | none =>
      obtain ⟨config, hconfig, -⟩ := ofSettings_of_none (firstObjection?_eq_none_iff.1 hfirst)
      rw [hconfig] at h
      cases h
  · rintro ⟨cause, hfirst, rfl⟩
    exact ofSettings_of_objection hfirst

theorem ofSettings_isOk_iff :
    (∃ config, ofSettings settings = .ok config) ↔ ∀ cause, ¬ Objects settings cause := by
  constructor
  · rintro ⟨config, h⟩
    rw [← firstObjection?_eq_none_iff]
    cases hfirst : firstObjection? settings with
    | none => rfl
    | some cause =>
      rw [ofSettings_of_objection hfirst] at h
      cases h
  · intro h
    obtain ⟨config, hconfig, -⟩ := ofSettings_of_none h
    exact ⟨config, hconfig⟩

/-- All that the checks ask of patterns is that there are some, and that none is blank. -/
theorem ofSettings_of_patterns {entries : List String} (h : ofSettings settings = .ok config)
    (hne : entries ≠ []) (hblank : ∀ entry ∈ entries, Text.isBlank entry = false) :
    ∃ other, ofSettings { settings with patterns := entries } = .ok other ∧
      other.patterns = entries ∧ other.mode = config.mode ∧ other.package? = config.package? ∧
      other.platformDirectory = config.platformDirectory := by
  have hobjects := ofSettings_isOk_iff.1 ⟨config, h⟩
  obtain ⟨directory, houtput⟩ :=
    Option.ne_none_iff_exists'.1 (hobjects .missingOutputDirectory)
  rw [ofSettings_of_required (hobjects .missingPatterns) (hobjects .missingArtifacts) houtput] at h
  simp only [bind_eq_ok_iff, pure_eq_ok_iff] at h
  obtain ⟨rules, -, mode, hmode, rfl⟩ := h
  have hrules : RuleSet.parse entries = .ok ⟨entries.map ruleOf⟩ :=
    RuleSet.parse_eq_ok_iff.2 ⟨⟨hne, hblank⟩, rfl⟩
  have hothers : ofSettings { settings with patterns := entries } = _ :=
    ofSettings_of_required hne (hobjects .missingArtifacts) houtput
  rw [hothers, hrules]
  simp only [hmode]
  exact ⟨_, rfl, rfl, rfl, rfl, rfl⟩

/-! ## The order of the artifacts -/

theorem objects_perm {artifacts : List Path} (h : artifacts.Perm settings.applicationArtifacts)
    (cause : ConfigurationFault) :
    Objects { settings with applicationArtifacts := artifacts } cause ↔ Objects settings cause := by
  cases cause with
  | missingArtifacts => simp only [Objects, ← List.length_eq_zero_iff, h.length_eq]
  | _ => simp only [Objects, h.mem_iff, h.length_eq]

/-- The order of the artifacts decides neither the fault nor the mode. -/
theorem mode_of_perm {artifacts : List Path} (h : artifacts.Perm settings.applicationArtifacts) :
    (ofSettings { settings with applicationArtifacts := artifacts }).map (·.mode) =
      (ofSettings settings).map (·.mode) := by
  have hfirst : firstObjection? { settings with applicationArtifacts := artifacts } =
      firstObjection? settings := by
    simp only [firstObjection?, objects_perm h]
  cases hsettings : firstObjection? settings with
  | some cause =>
    rw [ofSettings_of_objection hsettings, ofSettings_of_objection (hfirst.trans hsettings)]
  | none =>
    obtain ⟨config, hconfig, hkeeps, hfits⟩ :=
      ofSettings_of_none (firstObjection?_eq_none_iff.1 hsettings)
    obtain ⟨other, hother, hkeeps', hfits'⟩ :=
      ofSettings_of_none (firstObjection?_eq_none_iff.1 (hfirst.trans hsettings))
    have hjava : other.mode = .java ↔ config.mode = .java := by
      rw [(modeTells_of_fits hkeeps hfits).java, (modeTells_of_fits hkeeps' hfits').java]
      simp only [h.mem_iff]
    rw [hconfig, hother, Except.map, Except.map, Except.ok.injEq]
    cases hmode : config.mode with
    | java => exact hjava.2 hmode
    | android =>
      cases hmode' : other.mode with
      | android => rfl
      | java =>
        rw [hjava.1 hmode'] at hmode
        cases hmode

end Configuration

end AppBoundary
