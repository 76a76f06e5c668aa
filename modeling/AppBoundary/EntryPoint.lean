-- The artificial entry point of an app. Building it registers it with the
-- analysis, so it is built at most once; a failed attempt leaves nothing behind.
import AppBoundary.Fault
import AppBoundary.Text.Quoted

namespace AppBoundary

/-! ## Entry points -/

/-- The method that drives an app, by its class and its signature. -/
structure EntryPoint where
  declaringClass : String
  signature : String
deriving DecidableEq

/-- What builds entry points: the outcome of its call of a given number, for a directory of platforms
and an artifact. -/
abbrev Synthesizer := Nat → Path → Path → Except Fault EntryPoint

/-! ## The provider -/

/-- The entry point of one artifact, once it has been built, and the number of attempts. -/
structure EntryPointProvider where
  platformDirectory : Path
  artifact : Path
  cache : Option EntryPoint
  calls : Nat
deriving DecidableEq

namespace EntryPointProvider

/-- A provider that has not built anything yet. -/
def new (platformDirectory artifact : Path) : EntryPointProvider :=
  ⟨platformDirectory, artifact, none, 0⟩

/-- The entry point has been built. -/
def isSynthesized (provider : EntryPointProvider) : Bool :=
  provider.cache.isSome

/-- The entry point, built if need be, and the provider afterwards. -/
def get (synthesizer : Synthesizer) (provider : EntryPointProvider) :
    Except Fault EntryPoint × EntryPointProvider :=
  match provider.cache with
  | some entryPoint => (.ok entryPoint, provider)
  | none =>
    let outcome := synthesizer provider.calls provider.platformDirectory provider.artifact
    (outcome, { provider with cache := outcome.toOption, calls := provider.calls + 1 })

end EntryPointProvider

/-! ## Diagnostic output -/

/-- An entry point as diagnostic output shows it. -/
def EntryPoint.diagnostic (entryPoint : EntryPoint) : String :=
  "EntryPointHandle \x7b declaring_class: " ++ Text.quoted entryPoint.declaringClass
    ++ ", signature: " ++ Text.quoted entryPoint.signature ++ " \x7d"

/-- A provider as diagnostic output shows it. -/
def EntryPointProvider.diagnostic (provider : EntryPointProvider) : String :=
  let cache :=
    match provider.cache with
    | none => "None"
    | some entryPoint => "Some(" ++ entryPoint.diagnostic ++ ")"
  "EntryPointProvider \x7b platform_dir: " ++ Text.quoted provider.platformDirectory.text
    ++ ", artifact: " ++ Text.quoted provider.artifact.text ++ ", cache: " ++ cache ++ " \x7d"

end AppBoundary
