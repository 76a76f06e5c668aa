-- The archive that belongs to the package of an Android run. Its path is the text of
-- the package up to the extension, with another extension, whatever trails behind the
-- package's name, and it names no package.
import AppBoundary.Proofs.Configuration.Setup
import AppBoundary.Proofs.Path

namespace AppBoundary

/-! ## The text of a package -/

namespace Path

/-- The text of a package is a body with the extension, and behind it only separators and single dots.
The last piece of the body is the stem of the package. -/
structure IsSpelled (package : Path) (body tail : String) : Prop where
  text_eq : package.text = body ++ ".apk" ++ tail
  stem : package.stem? = some (lastPiece body.toList)
  ne_nil : lastPiece body.toList ≠ []
  trails : Trails tail.toList

variable {package : Path} {body tail : String} {directory stem rest : List Char}

theorem isPackage_iff : package.isPackage = true ↔ package.extension? = some ['a', 'p', 'k'] := by
  rw [isPackage, beq_iff_eq]

/-- The body is the directory with the stem. -/
theorem isSpelled_of_cut (h : Cut package directory (stem ++ '.' :: ['a', 'p', 'k']) rest)
    (hstem : stem ≠ []) :
    IsSpelled package (String.ofList (directory ++ stem)) (String.ofList rest) := by
  have hslash : '/' ∉ stem := fun hmem => h.noSlash (List.mem_append_left _ hmem)
  have hpiece : lastPiece (String.ofList (directory ++ stem)).toList = stem := by
    rw [String.toList_ofList, lastPiece_append h.front hslash]
  constructor
  case text_eq =>
    apply String.toList_inj.1
    rw [h.text_eq]
    simp
  case stem => rw [hpiece, h.stem? hstem (by decide)]
  case ne_nil => rwa [hpiece]
  case trails =>
    rw [String.toList_ofList]
    exact h.trails

/-- With the other extension a package is none. -/
theorem isPackage_of_jar (h : Cut package directory (stem ++ '.' :: ['a', 'p', 'k']) rest)
    (hstem : stem ≠ []) (hdot : stem ≠ ['.']) :
    (⟨String.ofList (directory ++ stem) ++ ".jar"⟩ : Path).isPackage = false := by
  have hjar : '/' ∉ "jar".toList := by decide
  have hcut := h.replace hstem hdot hjar .nil
  have htext : String.ofList (directory ++ (stem ++ '.' :: "jar".toList) ++ []) =
      String.ofList (directory ++ stem) ++ ".jar" := by
    apply String.toList_inj.1
    simp
  rw [htext] at hcut
  rw [isPackage, hcut.extension? hstem (by decide)]
  decide

/-- A package is spelled with its extension, and its archive with another one in its place. -/
theorem exists_archive (hpackage : package.isPackage = true) (hdot : package.stem? ≠ some ['.']) :
    ∃ body tail, IsSpelled package body tail ∧
      package.withExtension "jar" = ⟨body ++ ".jar"⟩ ∧
      (⟨body ++ ".jar"⟩ : Path).isPackage = false := by
  obtain ⟨directory, stem, tail, hstem, hold, hcut⟩ :=
    exists_cut_of_extension? (isPackage_iff.1 hpackage)
  rw [hcut.stem? hstem hold, Ne, Option.some.injEq] at hdot
  refine ⟨_, _, isSpelled_of_cut hcut hstem, ?_, isPackage_of_jar hcut hstem hdot⟩
  rw [hcut.withExtension hstem hdot hold, String.append_assoc]
  rfl

/-- Nothing trails behind a package whose text ends in the extension. -/
theorem IsSpelled.body_eq {other : String} (h : IsSpelled package body tail)
    (hother : package.text = other ++ ".apk") : body = other := by
  have htext := congrArg String.toList (h.text_eq.symm.trans hother)
  simp only [String.toList_append] at htext
  cases hlast : tail.toList.getLast? with
  | none =>
    rw [List.getLast?_eq_none_iff] at hlast
    rw [hlast, List.append_nil, List.append_cancel_right_eq] at htext
    exact String.toList_inj.1 htext
  | some c =>
    have hend := congrArg List.getLast? htext
    simp only [List.getLast?_append, hlast, Option.some_or] at hend
    rcases h.trails.eq_slash_or_dot hlast with rfl | rfl <;> simp at hend

/-- Packages whose texts end in the extension share an archive only if they are the same. -/
theorem body_inj {package other : Path} {body otherBody : String} (hpackage : package.isPackage = true)
    (hother : other.isPackage = true) (hdot : package.stem? ≠ some ['.'])
    (hotherDot : other.stem? ≠ some ['.']) (htext : package.text = body ++ ".apk")
    (hotherText : other.text = otherBody ++ ".apk")
    (h : package.withExtension "jar" = other.withExtension "jar") : body = otherBody := by
  obtain ⟨_, _, hspelled, harchive, -⟩ := exists_archive hpackage hdot
  obtain ⟨_, _, hotherSpelled, hotherArchive, -⟩ := exists_archive hother hotherDot
  rw [hspelled.body_eq htext] at harchive
  rw [hotherSpelled.body_eq hotherText] at hotherArchive
  rw [harchive, hotherArchive, Path.mk.injEq, ← String.toList_inj, String.toList_append,
    String.toList_append, List.append_cancel_right_eq] at h
  exact String.toList_inj.1 h

end Path

/-! ## Runs about a package -/

namespace Configuration

/-- The configuration is accepted for a run about the package. -/
structure IsAbout (config : Configuration) (package : Path) : Prop where
  accepted : ∃ settings, ofSettings settings = .ok config
  mode : config.mode = .android
  artifacts : config.applicationArtifacts = [package]

variable {settings : Settings} {config : Configuration} {package : Path}

theorem exists_isAbout (h : ofSettings settings = .ok config) (hmode : config.mode = .android) :
    ∃ package, IsAbout config package := by
  obtain ⟨package, -, hsingle, -⟩ := exists_inputs_of_android h hmode
  exact ⟨package, ⟨settings, h⟩, hmode, hsingle⟩

namespace IsAbout

theorem isPackage (h : IsAbout config package) : package.isPackage = true := by
  obtain ⟨settings, haccepted⟩ := h.accepted
  obtain ⟨other, -, hsingle, hpackage, -⟩ := exists_inputs_of_android haccepted h.mode
  rw [h.artifacts] at hsingle
  cases hsingle
  exact hpackage

theorem packageArchive? (h : IsAbout config package) :
    config.packageArchive? = some (package.withExtension "jar") := by
  rw [Configuration.packageArchive?, package?_of_android h.mode h.artifacts, Option.map_some]

/-- A setup of the run has the package of the configuration. -/
theorem packageArchive_setup (h : IsAbout config package) {levelOf : Path → Path → Option Nat}
    {limit : Regex.Limit} {setup : AndroidSetup}
    (hsetup : AndroidSetup.new config levelOf limit = .ok setup) :
    setup.packageArchive = package.withExtension "jar" := by
  obtain ⟨settings, haccepted⟩ := h.accepted
  obtain ⟨hpackage, -⟩ := (AndroidSetup.follows_of_ofSettings haccepted levelOf limit).made _ hsetup
  rw [package?_of_android h.mode h.artifacts, Option.some.injEq] at hpackage
  rw [AndroidSetup.packageArchive, hpackage]

end IsAbout

/-! ## The law -/

/-- An accepted Android configuration is about one package. Unless the stem of the package is a single
dot, the archive of the configuration and the archive of every setup made from it have the body of the
package's text with another extension for their path. The path is not the package's and is not
detected as a package, and packages whose texts end in the extension share it only if they are the
same. -/
theorem archive_takes_the_place_of_the_package :
    (∀ settings config, ofSettings settings = .ok config → config.mode = .android →
      ∃ package, IsAbout config package) ∧
    (∀ config package, IsAbout config package → package.stem? ≠ some ['.'] →
      ∃ body tail, package.IsSpelled body tail ∧
        config.packageArchive? = some ⟨body ++ ".jar"⟩ ∧
        (∀ levelOf limit setup, AndroidSetup.new config levelOf limit = .ok setup →
          setup.packageArchive = ⟨body ++ ".jar"⟩) ∧
        (⟨body ++ ".jar"⟩ : Path).isPackage = false ∧ ⟨body ++ ".jar"⟩ ≠ package ∧
        ∀ platform runtime mainClass,
          RunMode.detect [⟨body ++ ".jar"⟩] platform runtime mainClass ≠ .ok .android) ∧
    ∀ config other body otherBody,
      IsAbout config ⟨body ++ ".apk"⟩ → (⟨body ++ ".apk"⟩ : Path).stem? ≠ some ['.'] →
      IsAbout other ⟨otherBody ++ ".apk"⟩ → (⟨otherBody ++ ".apk"⟩ : Path).stem? ≠ some ['.'] →
      config.packageArchive? = other.packageArchive? → body = otherBody := by
  refine ⟨fun _ _ => exists_isAbout, fun config package h hdot => ?_,
    fun config other body otherBody h hdot hother hotherDot heq => ?_⟩
  · obtain ⟨body, tail, hspelled, harchive, hnone⟩ := Path.exists_archive h.isPackage hdot
    refine ⟨body, tail, hspelled, ?_, fun levelOf limit setup hsetup => ?_, hnone, ?_, ?_⟩
    · rw [h.packageArchive?, harchive]
    · rw [h.packageArchive_setup hsetup, harchive]
    · rintro rfl
      rw [h.isPackage] at hnone
      cases hnone
    · intro platform runtime mainClass hdetect
      rw [RunMode.detect_of_no_package (by simpa using hnone)] at hdetect
      split at hdetect <;> cases hdetect
  · rw [h.packageArchive?, hother.packageArchive?, Option.some.injEq] at heq
    exact Path.body_inj h.isPackage hother.isPackage hdot hotherDot rfl rfl heq

/-- Settings of a run about a package at some path. -/
def settingsAt (text : String) : Settings :=
  { packageSettings with applicationArtifacts := [⟨text⟩] }

/-- The configuration that the settings become. -/
def configurationAt (text : String) : Configuration :=
  { packageConfiguration with applicationArtifacts := [⟨text⟩] }

/-- A package with a separator and a dot behind its name has one archive for the configuration and for
its setup, and packages of one name in two directories have two. -/
theorem archives_of_packages_in_directories :
    (∃ body tail, (⟨"out/app.apk/."⟩ : Path).IsSpelled body tail ∧
      (configurationAt "out/app.apk/.").packageArchive? = some ⟨body ++ ".jar"⟩ ∧
      ∃ setup, AndroidSetup.new (configurationAt "out/app.apk/.") (fun _ _ => some 33) = .ok setup ∧
        setup.packageArchive = ⟨body ++ ".jar"⟩) ∧
    (configurationAt "out/app.apk").packageArchive? ≠
      (configurationAt "old/app.apk").packageArchive? := by
  have htrailing : IsAbout (configurationAt "out/app.apk/.") ⟨"out/app.apk/."⟩ :=
    ⟨⟨settingsAt "out/app.apk/.", rfl⟩, rfl, rfl⟩
  have hout : IsAbout (configurationAt "out/app.apk") ⟨"out/app" ++ ".apk"⟩ :=
    ⟨⟨settingsAt "out/app.apk", rfl⟩, rfl, rfl⟩
  have hold : IsAbout (configurationAt "old/app.apk") ⟨"old/app" ++ ".apk"⟩ :=
    ⟨⟨settingsAt "old/app.apk", rfl⟩, rfl, rfl⟩
  obtain ⟨-, hfound, hinj⟩ := archive_takes_the_place_of_the_package
  constructor
  · obtain ⟨body, tail, hspelled, harchive, hsetups, -⟩ := hfound _ _ htrailing (by decide)
    have hplain : ∀ entry ∈ packageConfiguration.patterns, Filter.Plain entry.toList := by
      simp [packageConfiguration, Filter.Plain, Filter.metacharacters]
    have hfilter := Filter.ofEntries_of_plain_of_total_le hplain ⟨"com.app.**", by decide⟩ (by decide)
    have hmade : ∃ setup, AndroidSetup.new (configurationAt "out/app.apk/.") (fun _ _ => some 33) =
        .ok setup := (AndroidSetup.new_isOk_iff rfl rfl rfl).2 ⟨_, hfilter⟩
    obtain ⟨setup, hsetup⟩ := hmade
    exact ⟨body, tail, hspelled, harchive, setup, hsetup, hsetups _ _ setup hsetup⟩
  · intro heq
    have hbody := hinj _ _ _ _ hout (by decide) hold (by decide) heq
    exact absurd hbody (by decide)

end Configuration

end AppBoundary
