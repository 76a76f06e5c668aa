-- The smallest parts of a written pattern: blanks that do not count, numbers,
-- and escapes after a backslash. Every reader takes the rest of the pattern and
-- gives what it read with what follows, or nothing when the pattern is bad.
import AppBoundary.Regex.Tree
import AppBoundary.Text.Blank
import AppBoundary.Text.Numeral

namespace AppBoundary.Regex

/-! ## Blanks -/

/-- The pattern behind blanks and comments, which run to the end of their line. -/
def skipBlanks (inComment : Bool) : List Char → List Char
  | [] => []
  | c :: rest =>
    if inComment then skipBlanks (c != '\n') rest
    else if Text.isBlankChar c then skipBlanks false rest
    else if c = '#' then skipBlanks true rest
    else c :: rest

/-- The pattern behind what does not count: nothing unless blanks are ignored. -/
def skip (ignoreBlanks : Bool) (cs : List Char) : List Char :=
  if ignoreBlanks then skipBlanks false cs else cs

theorem skip_false (cs : List Char) : skip false cs = cs := rfl

/-- The characters that satisfy a test, with what does not count skipped behind each. -/
def takeSkipping (ignoreBlanks : Bool) (test : Char → Bool) :
    Nat → List Char → List Char × List Char
  | 0, cs => ([], cs)
  | _ + 1, [] => ([], [])
  | n + 1, c :: rest =>
    if test c then
      let (taken, left) := takeSkipping ignoreBlanks test n (skip ignoreBlanks rest)
      (c :: taken, left)
    else ([], c :: rest)

/-! ## Numbers -/

/-- A decimal number of at most thirty-two bits, with any blanks around it. -/
def readDecimal (ignoreBlanks : Bool) (cs : List Char) : Option (Nat × List Char) :=
  let cs := cs.dropWhile Text.isBlankChar
  let (digits, rest) := takeSkipping ignoreBlanks (fun c => (Text.digit? c).isSome) cs.length cs
  match Text.natural? digits with
  | none => none
  | some n => if n < Text.wordLimit then some (n, rest.dropWhile Text.isBlankChar) else none

/-- The character with a code given in hexadecimal digits. -/
def scalar? (digits : List Char) : Option Char :=
  match digits.mapM Text.hexDigit? with
  | none => none
  | some values =>
    let code := Text.ofDigits 16 values
    if values.isEmpty then none
    else if code < 0xD800 ∨ (0xDFFF < code ∧ code < 0x110000) then some (Char.ofNat code)
    else none

/-- A given number of characters, with what does not count skipped in front of each. -/
def takeExactly (ignoreBlanks : Bool) : Nat → List Char → Option (List Char × List Char)
  | 0, cs => some ([], cs)
  | n + 1, cs =>
    match skip ignoreBlanks cs with
    | [] => none
    | c :: rest => (takeExactly ignoreBlanks n rest).map fun (taken, left) => (c :: taken, left)

/-- A code in a fixed number of hexadecimal digits or in braces. -/
def readCode (ignoreBlanks : Bool) (digits : Nat) (isByte : Bool) (cs : List Char) :
    Option (Literal × List Char) :=
  match skip ignoreBlanks cs with
  | '{' :: rest =>
    let inner := skip ignoreBlanks rest
    match takeSkipping ignoreBlanks (· != '}') inner.length inner with
    | (code, '}' :: rest) => (scalar? code).map fun c => (⟨c, false⟩, rest)
    | _ => none
  | cs =>
    (takeExactly ignoreBlanks digits cs).bind fun (code, rest) =>
      (scalar? code).map fun c => (⟨c, isByte⟩, rest)

/-! ## Properties -/

/-- A text cut in two at the first place where a separator stands. -/
def cutAt (separator : List Char) : List Char → Option (List Char × List Char)
  | [] => none
  | c :: rest =>
    if separator.isPrefixOf (c :: rest) then some ([], (c :: rest).drop separator.length)
    else (cutAt separator rest).map fun (before, after) => (c :: before, after)

/-- The query in the braces of a property class. An inequality sign turns it round. -/
def queryOf (negated : Bool) (text : List Char) : Bool × PropertyQuery :=
  match cutAt ['!', '='] text with
  | some (name, value) => (!negated, .value name value)
  | none =>
    match (cutAt [':'] text).or (cutAt ['='] text) with
    | some (name, value) => (negated, .value name value)
    | none => (negated, .name text)

/-- A property class behind its letter. -/
def readProperty (ignoreBlanks negated : Bool) (cs : List Char) :
    Option ((Bool × PropertyQuery) × List Char) :=
  match skip ignoreBlanks cs with
  | [] => none
  | '\\' :: _ => none
  | '{' :: rest =>
    let inner := skip ignoreBlanks rest
    match takeSkipping ignoreBlanks (· != '}') inner.length inner with
    | (text, '}' :: rest) => some (queryOf negated text, rest)
    | _ => none
  | c :: rest => some ((negated, .name [c]), rest)

/-! ## Escapes -/

/-- What an escape stands for. -/
inductive Escape
  | literal (literal : Literal)
  | assertion (assertion : Assertion)
  | property (negated : Bool) (query : PropertyQuery)
  | letter (negated : Bool) (cls : LetterClass)
deriving DecidableEq

/-- A character that stands for itself behind a backslash: ASCII, and neither a letter, a digit nor
an angle bracket. -/
def isEscapable (c : Char) : Bool :=
  c.toNat < 0x80 && !c.isAlphanum && c != '<' && c != '>'

/-- The letters of control characters. -/
def controlEscape? : Char → Option Char
  | 'a' => some '\x07'
  | 'f' => some '\x0C'
  | 't' => some '\t'
  | 'n' => some '\n'
  | 'r' => some '\r'
  | 'v' => some '\x0B'
  | _ => none

/-- The letters of classes, small for the class and capital for its complement. -/
def letterClass? : Char → Option (Bool × LetterClass)
  | 'd' => some (false, .digit)
  | 's' => some (false, .space)
  | 'w' => some (false, .word)
  | 'D' => some (true, .digit)
  | 'S' => some (true, .space)
  | 'W' => some (true, .word)
  | _ => none

/-- The letters and signs of conditions. -/
def assertion? : Char → Option Assertion
  | 'A' => some .textStart
  | 'z' => some .textEnd
  | 'b' => some .wordBoundary
  | 'B' => some .notWordBoundary
  | '<' => some .wordStart
  | '>' => some .wordEnd
  | _ => none

/-- The kinds of word boundary that have a name. -/
def namedBoundary? (name : List Char) : Option Assertion :=
  if name = "start".toList then some .wordStart
  else if name = "end".toList then some .wordEnd
  else if name = "start-half".toList then some .wordStartHalf
  else if name = "end-half".toList then some .wordEndHalf
  else none

/-- A word boundary behind its letter, with a name in braces or without one. Braces that begin
neither with a letter nor with a hyphen are left for a repetition. -/
def readBoundary (ignoreBlanks : Bool) (cs : List Char) : Option (Assertion × List Char) :=
  match cs with
  | '{' :: rest =>
    let isNameChar := fun c : Char => c.isAlpha || c == '-'
    match skip ignoreBlanks rest with
    | [] => none
    | c :: inner =>
      if isNameChar c then
        match takeSkipping ignoreBlanks isNameChar (c :: inner).length (c :: inner) with
        | (name, '}' :: rest) => (namedBoundary? name).map fun kind => (kind, rest)
        | _ => none
      else some (.wordBoundary, cs)
  | _ => some (.wordBoundary, cs)

/-- An escape behind its backslash. -/
def readEscape (ignoreBlanks : Bool) : List Char → Option (Escape × List Char)
  | [] => none
  | c :: rest =>
    if c = 'x' then (readCode ignoreBlanks 2 true rest).map fun (l, rest) => (.literal l, rest)
    else if c = 'u' then (readCode ignoreBlanks 4 false rest).map fun (l, rest) => (.literal l, rest)
    else if c = 'U' then (readCode ignoreBlanks 8 false rest).map fun (l, rest) => (.literal l, rest)
    else if c = 'p' ∨ c = 'P' then
      (readProperty ignoreBlanks (c == 'P') rest).map fun ((negated, query), rest) =>
        (.property negated query, rest)
    else if c = 'b' then
      (readBoundary ignoreBlanks rest).map fun (kind, rest) => (.assertion kind, rest)
    else if isEscapable c then some (.literal ⟨c, false⟩, rest)
    else
      match letterClass? c, controlEscape? c, assertion? c with
      | some (negated, cls), _, _ => some (.letter negated cls, rest)
      | none, some control, _ => some (.literal ⟨control, false⟩, rest)
      | none, none, some kind => some (.assertion kind, rest)
      | none, none, none => none

end AppBoundary.Regex
