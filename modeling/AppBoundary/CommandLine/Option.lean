-- The options of the command line: how each is spelled, and what the help says
-- about it.

namespace AppBoundary.CommandLine

/-! ## Options -/

/-- Options that take a value. -/
inductive ValueOption
  | patterns
  | mainClass
  | applicationArtifacts
  | libraryArtifacts
  | dynamicClassesFile
  | reflectionFactsFile
  | outputDirectory
  | runtimeDirectory
  | platformDirectory
  | settingsFile
deriving DecidableEq

/-- Options that are given or not. -/
inductive Switch
  | verbose
  | quiet
deriving DecidableEq

/-- All options. -/
inductive Opt
  | value (option : ValueOption)
  | switch (option : Switch)
  | help
  | version
deriving DecidableEq

/-- How an option is spelled and explained. -/
structure Spelling where
  letter : Char
  name : String
  /-- What the value is called. -/
  placeholder : Option String
  description : String

namespace Opt

/-- The spelling of each option. -/
def spelling : Opt → Spelling
  | .value .patterns =>
    ⟨'r', "application-regex", some "regex",
     "Application packages or classes, separated by the path separator (`com.app.*`, `com.app.**`, `**`, or a class name)"⟩
  | .value .mainClass =>
    ⟨'m', "main-class", some "class",
     "The main class that runs the application when the program executes"⟩
  | .value .applicationArtifacts =>
    ⟨'a', "application-jars", some "path",
     "Application JAR files (or a single APK), separated by the path separator"⟩
  | .value .libraryArtifacts =>
    ⟨'l', "library-jars", some "path", "Library JAR files, separated by the path separator"⟩
  | .value .dynamicClassesFile =>
    ⟨'d', "dynamic-classes-file", some "file",
     "File listing classes that are loaded dynamically, one per line"⟩
  | .value .reflectionFactsFile =>
    ⟨'t', "tamiflex-facts-file", some "file",
     "Reflection facts for this application in the TamiFlex format"⟩
  | .value .outputDirectory =>
    ⟨'o', "output-directory", some "directory", "Directory for output files"⟩
  | .value .runtimeDirectory =>
    ⟨'j', "java-runtime-directory", some "directory",
     "Java runtime environment to model (required for JAR input)"⟩
  | .value .platformDirectory =>
    ⟨'p', "android-platform-directory", some "directory",
     "Android platforms directory containing android-N/android.jar (required for APK input)"⟩
  | .value .settingsFile =>
    ⟨'c', "config", some "file",
     "Settings file (YAML or TOML); command-line values take precedence"⟩
  | .switch .verbose => ⟨'v', "verbose", none, "Verbose output"⟩
  | .switch .quiet => ⟨'q', "quiet", none, "Quiet mode - only output results"⟩
  | .help => ⟨'h', "help", none, "Print help"⟩
  | .version => ⟨'V', "version", none, "Print version"⟩

/-- All options, in the order of the help. -/
def all : List Opt :=
  [.value .patterns, .value .mainClass, .value .applicationArtifacts, .value .libraryArtifacts,
   .value .dynamicClassesFile, .value .reflectionFactsFile, .value .outputDirectory,
   .value .runtimeDirectory, .value .platformDirectory, .value .settingsFile, .switch .verbose,
   .switch .quiet, .help, .version]

/-- The option of a letter. -/
def ofLetter? (letter : Char) : Option Opt :=
  all.find? (·.spelling.letter = letter)

/-- The option of a name, which must be complete. -/
def ofName? (name : String) : Option Opt :=
  all.find? (·.spelling.name = name)

/-- An option as messages show it. -/
def shown (option : Opt) : String :=
  let spelling := option.spelling
  "--" ++ spelling.name ++ (spelling.placeholder.map (" <" ++ · ++ ">")).getD ""

end Opt

/-- An empty value counts as a value. Paths are never empty; lists and class names may be. -/
def ValueOption.acceptsEmpty : ValueOption → Bool
  | .patterns | .mainClass | .applicationArtifacts | .libraryArtifacts => true
  | _ => false

/-! ## Fixed texts -/

/-- The lines about an option in the help. -/
def Opt.helpLines (option : Opt) : String :=
  "  -" ++ String.singleton option.spelling.letter ++ ", " ++ option.shown ++ "\n          "
    ++ option.spelling.description ++ "\n"

/-- The help. -/
def helpText : String :=
  "Application/library boundary classification and entry-point provisioning for whole-program analysis of Java and Android apps\n\nUsage: appscope [OPTIONS]\n\nOptions:\n"
    ++ String.join (Opt.all.map Opt.helpLines)

/-- The name and the version of the program. -/
def versionText : String :=
  "appscope 0.1.0\n"

end AppBoundary.CommandLine
