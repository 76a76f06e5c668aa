-- The arguments of the command line, read from left to right. The first
-- problem decides, and so does the first wish for help.
import AppBoundary.CommandLine.Option
import AppBoundary.Settings

namespace AppBoundary.CommandLine

/-! ## What ends the reading -/

/-- Arguments that cannot be understood. -/
inductive ArgumentFault
  | unexpected (argument : String)
  | noValue (option : ValueOption)
  | repeated (option : Opt)
  | needlessValue (value : String) (option : Opt)
deriving DecidableEq

def ArgumentFault.message : ArgumentFault → String
  | .unexpected argument => "unexpected argument '" ++ argument ++ "' found"
  | .noValue option =>
    "a value is required for '" ++ (Opt.value option).shown ++ "' but none was supplied"
  | .repeated option => "the argument '" ++ option.shown ++ "' cannot be used multiple times"
  | .needlessValue value option =>
    "unexpected value '" ++ value ++ "' for '" ++ option.shown ++ "' found; no more were expected"

/-- What ends the reading before all arguments are read. -/
inductive Stop
  | help
  | version
  | fault (cause : ArgumentFault)
deriving DecidableEq

/-! ## The state of reading -/

/-- What has been given so far. The option named last still waits, for its value or for the next
argument. -/
structure Arguments where
  values : List (ValueOption × String)
  switches : List Switch
  waiting : Option (ValueOption × Option String)
deriving DecidableEq

namespace Arguments

/-- Nothing has been given. -/
def empty : Arguments :=
  ⟨[], [], none⟩

/-- The value of an option. -/
def value? (arguments : Arguments) (option : ValueOption) : Option String :=
  arguments.values.lookup option

/-! ## Steps -/

/-- One more value. No option is given twice. -/
def add (arguments : Arguments) (option : ValueOption) (value : String) : Except Stop Arguments :=
  if (arguments.value? option).isSome then .error (.fault (.repeated (.value option)))
  else if value.isEmpty && !option.acceptsEmpty then .error (.fault (.noValue option))
  else .ok { arguments with values := arguments.values ++ [(option, value)] }

/-- The option that waits gets its value, or lacks it. -/
def settle (arguments : Arguments) : Except Stop Arguments :=
  match arguments.waiting with
  | none => .ok arguments
  | some (option, none) => .error (.fault (.noValue option))
  | some (option, some value) => { arguments with waiting := none }.add option value

/-- An option whose value may follow as the next argument. -/
def await (arguments : Arguments) (option : ValueOption) : Except Stop Arguments := do
  return { ← arguments.settle with waiting := some (option, none) }

/-- An option with a value attached to it. -/
def give (arguments : Arguments) (option : ValueOption) (value : String) : Except Stop Arguments := do
  (← arguments.settle).add option value

/-- An option without a value. -/
def turnOn (arguments : Arguments) : Opt → Except Stop Arguments
  | .value option => arguments.await option
  | .switch option => do
    let arguments ← arguments.settle
    if arguments.switches.contains option then throw (.fault (.repeated (.switch option)))
    return { arguments with switches := arguments.switches ++ [option] }
  | .help => do
    let _ ← arguments.settle
    throw .help
  | .version => do
    let _ ← arguments.settle
    throw .version

/-! ## Single arguments -/

/-- The letters behind one dash. Behind an option with a value, the rest is the value. -/
def readLetters (arguments : Arguments) : List Char → Except Stop Arguments
  | [] => .ok arguments
  | letter :: rest =>
    match Opt.ofLetter? letter with
    | none => .error (.fault (.unexpected ("-" ++ String.singleton letter)))
    | some (.value option) =>
      match rest with
      | [] => arguments.await option
      | '=' :: value => arguments.give option (String.ofList value)
      | value => arguments.give option (String.ofList value)
    | some option => do (← arguments.turnOn option).readLetters rest

/-- A name behind two dashes, with the value behind its equals sign. -/
def readName (arguments : Arguments) (text : List Char) : Except Stop Arguments :=
  let name := String.ofList (text.takeWhile (· ≠ '='))
  let value? := (text.dropWhile (· ≠ '=')).tail?.map String.ofList
  match Opt.ofName? name, value? with
  | none, _ => .error (.fault (.unexpected ("--" ++ name)))
  | some (.value option), some value => arguments.give option value
  | some option, some value => .error (.fault (.needlessValue value option))
  | some option, none => arguments.turnOn option

/-- An argument that is no option: the value of the option that waits for one. -/
def readWord (arguments : Arguments) (argument : String) : Except Stop Arguments :=
  match arguments.waiting with
  | some (option, none) => .ok { arguments with waiting := some (option, some argument) }
  | _ => .error (.fault (.unexpected argument))

/-- All arguments. Behind two dashes alone there are no options, and nothing else is expected. -/
def readAll (arguments : Arguments) : List String → Except Stop Arguments
  | [] => arguments.settle
  | argument :: rest =>
    match argument.toList, rest with
    | ['-', '-'], [] => arguments.settle
    | ['-', '-'], next :: _ => .error (.fault (.unexpected next))
    | '-' :: '-' :: text, _ => do (← arguments.readName text).readAll rest
    | '-' :: c :: text, _ => do (← arguments.readLetters (c :: text)).readAll rest
    | _, _ => do (← arguments.readWord argument).readAll rest

/-- The arguments of a command line. -/
def ofList (arguments : List String) : Except Stop Arguments :=
  empty.readAll arguments

/-! ## Settings -/

/-- A list option. -/
def list (arguments : Arguments) (option : ValueOption) : List String :=
  ((arguments.value? option).map Settings.splitList).getD []

/-- A path option. -/
def path? (arguments : Arguments) (option : ValueOption) : Option Path :=
  (arguments.value? option).map Path.mk

/-- The settings that the arguments make. -/
def settings (arguments : Arguments) : Settings :=
  { patterns := arguments.list .patterns
    mainClass := arguments.value? .mainClass
    applicationArtifacts := (arguments.list .applicationArtifacts).map Path.mk
    libraryArtifacts := (arguments.list .libraryArtifacts).map Path.mk
    dynamicClassesFile := arguments.path? .dynamicClassesFile
    reflectionFactsFile := arguments.path? .reflectionFactsFile
    outputDirectory := arguments.path? .outputDirectory
    runtimeDirectory := arguments.path? .runtimeDirectory
    platformDirectory := arguments.path? .platformDirectory }

end Arguments

end AppBoundary.CommandLine
