-- Patterns read into trees. The reader walks over the pattern once and keeps
-- the open groups on a stack.
import AppBoundary.Regex.ClassReader
import AppBoundary.Unicode.Property

namespace AppBoundary.Regex

/-! ## Open groups -/

/-- What has been read of a group: its finished branches and the parts of the branch being read,
latest first. -/
structure Level where
  branches : List Tree
  parts : List Tree

/-- How a group wraps its body. -/
inductive GroupKind
  | capture
  | flags (changes : FlagChanges)

/-- A group that is open: what was read before it, how blanks counted there, and its kind. -/
structure OpenGroup where
  outer : Level
  ignoreBlanks : Bool
  kind : GroupKind

/-- The state of the reader. -/
structure ReadState where
  rest : List Char
  ignoreBlanks : Bool
  /-- Names of groups, which must differ. -/
  names : List (List Char)
  level : Level
  groups : List OpenGroup

def GroupKind.wrap (kind : GroupKind) (body : Tree) : Tree :=
  match kind with
  | .capture => .capture body
  | .flags changes => .group changes body

/-- The tree of a list of parts. -/
def concatOf : List Tree → Tree
  | [] => .empty
  | [part] => part
  | parts => .concat parts

/-- The tree of a level that is complete. -/
def Level.tree (level : Level) : Tree :=
  match level.branches with
  | [] => concatOf level.parts.reverse
  | branches => .alternation (concatOf level.parts.reverse :: branches).reverse

/-- The state with one more part, and with another rest. -/
def ReadState.push (state : ReadState) (part : Tree) (rest : List Char) : ReadState :=
  { state with rest := rest, level := { state.level with parts := part :: state.level.parts } }

/-! ## Groups -/

/-- A character of a group name. Letters and underscores may begin one, digits and some signs may
follow. -/
def isNameChar (first : Bool) (c : Char) : Bool :=
  let letter := c == '_' || ((Unicode.trait? "alphabetic").getD .empty).contains c
  if first then letter
  else letter || c == '.' || c == '[' || c == ']' || ((Unicode.category? "n").getD .empty).contains c

/-- A group name up to its closing angle bracket. -/
def readName (cs : List Char) : Option (List Char × List Char) :=
  let name := cs.takeWhile (· != '>')
  match cs.dropWhile (· != '>'), name with
  | '>' :: rest, first :: others =>
    if isNameChar true first && others.all (isNameChar false) then some (name, rest) else none
  | _, _ => none

/-- The letters of flags. -/
def flag? : Char → Option Flag
  | 'i' => some .caseless
  | 'm' => some .multiLine
  | 's' => some .dotAll
  | 'U' => some .swapGreed
  | 'u' => some .unicode
  | 'R' => some .returnLines
  | 'x' => some .ignoreBlanks
  | _ => none

/-- Flags up to a colon or a closing bracket, with that sign. No flag and no minus sign stands
twice, and a minus sign has a flag behind it. -/
def readFlags (changes : FlagChanges) (negated dangling : Bool) :
    List Char → Option (FlagChanges × Char × List Char)
  | [] => none
  | c :: rest =>
    if c = ':' ∨ c = ')' then if dangling then none else some (changes.reverse, c, rest)
    else if c = '-' then if negated then none else readFlags changes true true rest
    else
      match flag? c with
      | none => none
      | some flag =>
        if changes.any (·.1 == flag) then none
        else readFlags ((flag, !negated) :: changes) negated false rest

/-- The state inside a new group. -/
def ReadState.enter (state : ReadState) (kind : GroupKind) (ignoreBlanks : Bool)
    (rest : List Char) : ReadState :=
  { state with
    rest := rest
    ignoreBlanks := ignoreBlanks
    level := ⟨[], []⟩
    groups := ⟨state.level, state.ignoreBlanks, kind⟩ :: state.groups }

/-- The state behind an opening parenthesis. Conditions on what surrounds a place are no groups of
these patterns. -/
def ReadState.openGroup (state : ReadState) (cs : List Char) : Option ReadState :=
  let named := fun cs =>
    match readName cs with
    | none => none
    | some (name, rest) =>
      if state.names.contains name then none
      else some ({ state with names := name :: state.names }.enter .capture state.ignoreBlanks rest)
  match skip state.ignoreBlanks cs with
  | '?' :: '=' :: _ | '?' :: '!' :: _ | '?' :: '<' :: '=' :: _ | '?' :: '<' :: '!' :: _ => none
  | '?' :: 'P' :: '<' :: rest => named rest
  | '?' :: '<' :: rest => named rest
  | '?' :: rest =>
    match readFlags [] false false rest with
    | none => none
    | some (changes, ending, rest) =>
      let ignoreBlanks := (changes.lookup .ignoreBlanks).getD state.ignoreBlanks
      if ending = ':' then some (state.enter (.flags changes) ignoreBlanks rest)
      else if changes.isEmpty then none
      else some ({ state with ignoreBlanks := ignoreBlanks }.push (.flags changes) rest)
  | rest => some (state.enter .capture state.ignoreBlanks rest)

/-- The state behind a closing parenthesis. -/
def ReadState.closeGroup (state : ReadState) (rest : List Char) : Option ReadState :=
  match state.groups with
  | [] => none
  | group :: groups =>
    some { state with
      rest := rest
      ignoreBlanks := group.ignoreBlanks
      level :=
        { group.outer with parts := group.kind.wrap state.level.tree :: group.outer.parts }
      groups := groups }

/-! ## Repetition -/

/-- The state with its last part repeated. Flags and nothing at all cannot be repeated. -/
def ReadState.repeatLast (state : ReadState) (least : Nat) (most : Option Nat) (greedy : Bool)
    (rest : List Char) : Option ReadState :=
  match state.level.parts with
  | [] => none
  | .flags _ :: _ => none
  | part :: parts =>
    some { state with
      rest := rest
      level := { state.level with parts := .times part least most greedy :: parts } }

/-- Bounds behind an opening brace: one number, a least number, or a least and a greatest one. -/
def readBounds (ignoreBlanks : Bool) (cs : List Char) :
    Option ((Nat × Option Nat) × List Char) :=
  match readDecimal ignoreBlanks (skip ignoreBlanks cs) with
  | none => none
  | some (least, ',' :: rest) =>
    match skip ignoreBlanks rest with
    | '}' :: rest => some ((least, none), rest)
    | rest =>
      match readDecimal ignoreBlanks rest with
      | some (most, '}' :: rest) => if least ≤ most then some ((least, some most), rest) else none
      | _ => none
  | some (least, '}' :: rest) => some ((least, some least), rest)
  | some _ => none

/-- A question mark behind a repetition makes it prefer fewer times. -/
def readGreed (cs : List Char) : Bool × List Char :=
  match cs with
  | '?' :: rest => (false, rest)
  | _ => (true, cs)

/-! ## The reader -/

/-- An escape as a part of a pattern. -/
def Escape.tree : Escape → Tree
  | .literal l => .literal l
  | .assertion kind => .assertion kind
  | .property negated query => .property negated query
  | .letter negated cls => .letter negated cls

/-- One turn of the reader at a character that counts. -/
def ReadState.step (state : ReadState) (c : Char) (rest : List Char) : Option ReadState :=
  if c = '(' then state.openGroup rest
  else if c = ')' then state.closeGroup rest
  else if c = '|' then
    some { state with
      rest := rest
      level := ⟨concatOf state.level.parts.reverse :: state.level.branches, []⟩ }
  else if c = '[' then
    (readClass state.ignoreBlanks rest).bind fun (cls, rest) =>
      match cls with
      | .bracketed negated body => some (state.push (.bracketed negated body) rest)
      | _ => none
  else if c = '?' then
    let (greedy, rest) := readGreed rest
    state.repeatLast 0 (some 1) greedy rest
  else if c = '*' then
    let (greedy, rest) := readGreed rest
    state.repeatLast 0 none greedy rest
  else if c = '+' then
    let (greedy, rest) := readGreed rest
    state.repeatLast 1 none greedy rest
  else if c = '{' then
    (readBounds state.ignoreBlanks rest).bind fun ((least, most), rest) =>
      let (greedy, rest) := readGreed (skip state.ignoreBlanks rest)
      state.repeatLast least most greedy rest
  else if c = '\\' then
    (readEscape state.ignoreBlanks rest).map fun (escape, rest) => state.push escape.tree rest
  else if c = '.' then some (state.push .dot rest)
  else if c = '^' then some (state.push (.assertion .lineStart) rest)
  else if c = '$' then some (state.push (.assertion .lineEnd) rest)
  else some (state.push (.literal ⟨c, false⟩) rest)

/-- The tree of a pattern from a state on. Every turn takes a character, so the length of the rest
bounds the number of turns. -/
def ReadState.run : Nat → ReadState → Option Tree
  | 0, _ => none
  | n + 1, state =>
    match skip state.ignoreBlanks state.rest with
    | [] => if state.groups.isEmpty then some state.level.tree else none
    | c :: rest =>
      match state.step c rest with
      | none => none
      | some state => run n state

/-- The state before a pattern is read. -/
def ReadState.start (pattern : List Char) : ReadState :=
  ⟨pattern, false, [], ⟨[], []⟩, []⟩

/-- The deepest nesting that a pattern may have. -/
def depthLimit : Nat := 250

/-- The tree of a pattern, if it is well formed and not nested too deep. -/
def Tree.read? (pattern : List Char) : Option Tree :=
  ((ReadState.start pattern).run (pattern.length + 1)).filter (·.depth ≤ depthLimit)

end AppBoundary.Regex
