-- Bracketed classes: items, ranges, classes within classes, and the set
-- operations between them, all of one strength and read from the left.
import AppBoundary.Regex.Lexeme

namespace AppBoundary.Regex

/-! ## Named ASCII classes -/

/-- The ranges of the named ASCII classes. -/
def asciiClasses : List (String × List (Nat × Nat)) :=
  [("alnum", [(0x30, 0x39), (0x41, 0x5A), (0x61, 0x7A)]), ("alpha", [(0x41, 0x5A), (0x61, 0x7A)]),
   ("ascii", [(0x00, 0x7F)]), ("blank", [(0x09, 0x09), (0x20, 0x20)]),
   ("cntrl", [(0x00, 0x1F), (0x7F, 0x7F)]), ("digit", [(0x30, 0x39)]), ("graph", [(0x21, 0x7E)]),
   ("lower", [(0x61, 0x7A)]), ("print", [(0x20, 0x7E)]),
   ("punct", [(0x21, 0x2F), (0x3A, 0x40), (0x5B, 0x60), (0x7B, 0x7E)]),
   ("space", [(0x09, 0x0D), (0x20, 0x20)]), ("upper", [(0x41, 0x5A)]),
   ("word", [(0x30, 0x39), (0x41, 0x5A), (0x5F, 0x5F), (0x61, 0x7A)]),
   ("xdigit", [(0x30, 0x39), (0x41, 0x46), (0x61, 0x66)])]

/-- A named class behind its opening bracket. Anything else is no named class, and no mistake. -/
def readAsciiClass? (cs : List Char) : Option (ClassTree × List Char) :=
  match cs with
  | ':' :: rest =>
    let (negated, rest) :=
      match rest with
      | '^' :: rest => (true, rest)
      | _ => (false, rest)
    match rest.dropWhile (· != ':') with
    | ':' :: ']' :: after =>
      (asciiClasses.lookup (String.ofList (rest.takeWhile (· != ':')))).map fun ranges =>
        (.ascii negated ranges, after)
    | _ => none
  | _ => none

/-! ## Items -/

/-- The tree of a list of items. -/
def classOf : List ClassTree → ClassTree
  | [] => .nothing
  | first :: rest => rest.foldl .both first

/-- A character or an escape of a class. -/
def readClassAtom (ignoreBlanks : Bool) : List Char → Option (Escape × List Char)
  | [] => none
  | '\\' :: rest => readEscape ignoreBlanks rest
  | c :: rest => some (.literal ⟨c, false⟩, rest)

/-- An escape as an item. A condition on a place is none. -/
def Escape.item? : Escape → Option ClassTree
  | .literal l => some (.literal l)
  | .property negated query => some (.property negated query)
  | .letter negated cls => some (.letter negated cls)
  | .assertion _ => none

/-- An escape as the end of a range. -/
def Escape.literal? : Escape → Option Literal
  | .literal l => some l
  | _ => none

/-- The character behind blanks and the sign of a comment. -/
def peekBehindBlanks (ignoreBlanks : Bool) (cs : List Char) : Option Char :=
  if ignoreBlanks then
    match cs.dropWhile Text.isBlankChar with
    | '#' :: rest => ((rest.dropWhile Text.isBlankChar).head?).or cs.head?
    | c :: _ => some c
    | [] => cs.head?
  else cs.head?

/-- One item or one range. A hyphen before the closing bracket or before another hyphen makes no
range. -/
def readClassItem (ignoreBlanks : Bool) (cs : List Char) : Option (ClassTree × List Char) :=
  (readClassAtom ignoreBlanks cs).bind fun (first, rest) =>
    match skip ignoreBlanks rest with
    | [] => none
    | '-' :: behind =>
      let next := peekBehindBlanks ignoreBlanks behind
      if next = some ']' ∨ next = some '-' then first.item?.map fun item => (item, '-' :: behind)
      else
        (readClassAtom ignoreBlanks (skip ignoreBlanks behind)).bind fun (last, rest) =>
          first.literal?.bind fun low =>
            last.literal?.bind fun high =>
              if low.char ≤ high.char then some (.range low high, rest) else none
    | rest => first.item?.map fun item => (item, rest)

/-! ## Brackets -/

/-- What waits while an inner part of a class is read. -/
inductive ClassFrame
  /-- The items before an opening bracket, latest first, and the sign behind it. -/
  | bracket (outer : List ClassTree) (negated : Bool)
  /-- The left side of an operation. -/
  | operand (op : SetOperation) (left : ClassTree)

/-- Hyphens at the start of a class, and the rest. -/
def readHyphens (ignoreBlanks : Bool) : Nat → List Char → List ClassTree × List Char
  | n + 1, '-' :: rest =>
    let (items, rest) := readHyphens ignoreBlanks n (skip ignoreBlanks rest)
    (.literal ⟨'-', false⟩ :: items, rest)
  | _, cs => ([], cs)

/-- The start of a class behind its bracket: its sign, and the items that are literal only here. -/
def openClass (ignoreBlanks : Bool) (cs : List Char) :
    Option (Bool × List ClassTree × List Char) :=
  let (negated, cs) :=
    match skip ignoreBlanks cs with
    | '^' :: rest => (true, skip ignoreBlanks rest)
    | cs => (false, cs)
  match readHyphens ignoreBlanks cs.length cs with
  | (_, []) => none
  | ([], ']' :: rest) =>
    match skip ignoreBlanks rest with
    | [] => none
    | rest => some (negated, [.literal ⟨']', false⟩], rest)
  | (items, rest) => some (negated, items, rest)

/-- The operations that still wait for their right side, applied to it. -/
def closeOperand (right : ClassTree) : List ClassFrame → ClassTree × List ClassFrame
  | .operand op left :: frames => (.operation op left right, frames)
  | frames => (right, frames)

/-- The sign of a set operation at the head of a pattern. -/
def operation? : List Char → Option (SetOperation × List Char)
  | '&' :: '&' :: rest => some (.inter, rest)
  | '-' :: '-' :: rest => some (.diff, rest)
  | '~' :: '~' :: rest => some (.symmDiff, rest)
  | _ => none

/-- The rest of a class whose items so far are given, latest first, and whose outer parts wait. The
bound is the length of the pattern, for each turn takes at least one character. -/
def readClassRest (ignoreBlanks : Bool) :
    Nat → List ClassFrame → List ClassTree → List Char → Option (ClassTree × List Char)
  | 0, _, _, _ => none
  | n + 1, frames, items, cs =>
    let cs := skip ignoreBlanks cs
    match operation? cs with
    | some (op, rest) =>
      let (left, frames) := closeOperand (classOf items.reverse) frames
      readClassRest ignoreBlanks n (.operand op left :: frames) [] rest
    | none =>
      match cs with
      | [] => none
      | '[' :: rest =>
        match readAsciiClass? rest with
        | some (item, rest) => readClassRest ignoreBlanks n frames (item :: items) rest
        | none =>
          match openClass ignoreBlanks rest with
          | none => none
          | some (negated, inner, rest) =>
            readClassRest ignoreBlanks n (.bracket items negated :: frames) inner.reverse rest
      | ']' :: rest =>
        match closeOperand (classOf items.reverse) frames with
        | (body, .bracket _ negated :: []) => some (.bracketed negated body, rest)
        | (body, .bracket outer negated :: frames) =>
          readClassRest ignoreBlanks n frames (.bracketed negated body :: outer) rest
        | _ => none
      | cs =>
        match readClassItem ignoreBlanks cs with
        | none => none
        | some (item, rest) => readClassRest ignoreBlanks n frames (item :: items) rest

/-- A class behind its opening bracket. -/
def readClass (ignoreBlanks : Bool) (cs : List Char) : Option (ClassTree × List Char) :=
  match openClass ignoreBlanks cs with
  | none => none
  | some (negated, items, rest) =>
    readClassRest ignoreBlanks (rest.length + 1) [.bracket [] negated] items.reverse rest

end AppBoundary.Regex
