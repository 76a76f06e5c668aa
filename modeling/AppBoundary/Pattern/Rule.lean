-- Application patterns. An entry names one class, the classes of one package,
-- the classes of a package and of every package nested in it, or the classes
-- without a package.
import AppBoundary.Fault
import AppBoundary.Text.Affix
import AppBoundary.Text.Blank

namespace AppBoundary

/-! ## Rules -/

/-- What a pattern covers. -/
inductive RuleKind
  /-- One class, named by the whole entry. -/
  | exactClass
  /-- The classes of one package. -/
  | package (name : String)
  /-- The classes whose name begins with `start`, which ends in a dot. -/
  | superPackage (start : String)
  /-- The classes without a package. -/
  | defaultPackage
deriving DecidableEq

/-- A pattern: what it covers, and the entry it was read from. -/
structure Rule where
  kind : RuleKind
  source : String
deriving DecidableEq

/-! ## Reading an entry -/

/-- What an entry covers. The longer ending goes first, and its dot stays with the package name so
that a package of a longer name is not covered. -/
def RuleKind.ofEntry (entry : String) : RuleKind :=
  if entry = "**" then .defaultPackage
  else
    match Text.beforeEnd? ".**" entry with
    | some outer => .superPackage (outer ++ ".")
    | none =>
      match Text.beforeEnd? ".*" entry with
      | some name => .package name
      | none => .exactClass

/-- The rule of an entry. A blank entry is refused. -/
def Rule.parse (entry : String) : Except Fault Rule :=
  if Text.isBlank entry then .error (.configuration .blankPattern)
  else .ok ⟨.ofEntry entry, entry⟩

/-- The name of what a rule covers. -/
def RuleKind.name : RuleKind → String
  | .exactClass => "class"
  | .package _ => "package"
  | .superPackage _ => "super-package"
  | .defaultPackage => "default-package"

/-- The package or the start of names that a rule compares with. -/
def RuleKind.compared? : RuleKind → Option String
  | .package name => some name
  | .superPackage start => some start
  | .exactClass | .defaultPackage => none

theorem Rule.parse_eq_ok_iff (entry : String) (rule : Rule) :
    Rule.parse entry = .ok rule ↔ Text.isBlank entry = false ∧ rule = ⟨.ofEntry entry, entry⟩ := by
  unfold Rule.parse
  cases h : Text.isBlank entry <;> simp [eq_comm]

end AppBoundary
