-- A place in a YAML text: the characters that are left, and where they stand.
-- Indentation is counted in columns, so every step keeps count.

namespace AppBoundary.Yaml

/-! ## Characters -/

/-- Blanks inside a line. -/
def isBlank (c : Char) : Bool :=
  c == ' ' || c == '\t'

/-- Characters that end a line. -/
def isBreak (c : Char) : Bool :=
  ['\n', '\r', '\u0085', '\u2028', '\u2029'].contains c

/-- Characters of anchors, handles and directive names. -/
def isWord (c : Char) : Bool :=
  c.isAlphanum || c == '_' || c == '-'

/-- Nothing follows in the line: a blank, a break, or the end of the text. -/
def isGap : Option Char → Bool
  | none => true
  | some c => isBlank c || isBreak c

/-- Characters that a text may hold at all. -/
def isAllowed (c : Char) : Bool :=
  let code := c.toNat
  ['\t', '\n', '\r', '\u0085'].contains c || (0x20 ≤ code && code ≤ 0x7e)
    || (0xa0 ≤ code && code ≤ 0xfffd) || 0x10000 ≤ code

/-- What a break contributes to a scalar. The two breaks that Unicode has for lines and paragraphs
stay as they are. -/
def breakText (c : Char) : List Char :=
  if c = '\u2028' ∨ c = '\u2029' then [c] else ['\n']

/-! ## Positions -/

/-- How many characters, lines, and characters of the line come before. -/
structure Position where
  index : Nat
  line : Nat
  column : Nat

/-- The position after some more characters of the same line. -/
def Position.skip (place : Position) (count : Nat) : Position :=
  ⟨place.index + count, place.line, place.column + count⟩

/-- The position after a break of so many characters. -/
def Position.newLine (place : Position) (count : Nat) : Position :=
  ⟨place.index + count, place.line + 1, 0⟩

/-! ## Cursors -/

/-- The characters that are left, and their position. -/
structure Cursor where
  rest : List Char
  place : Position

namespace Cursor

/-- The start of a text. -/
def start (text : List Char) : Cursor :=
  ⟨text, 0, 0, 0⟩

/-- The next character, or one after it. -/
def peek? (cursor : Cursor) (n : Nat) : Option Char :=
  cursor.rest[n]?

/-- The cursor after some more characters of the same line. -/
def skip (cursor : Cursor) (count : Nat) : Cursor :=
  ⟨cursor.rest.drop count, cursor.place.skip count⟩

/-- The cursor at a later place of the same line, where `rest` is left. -/
def moveTo (cursor : Cursor) (rest : List Char) : Cursor :=
  ⟨rest, cursor.place.skip (cursor.rest.length - rest.length)⟩

/-- The longest stretch of such characters, none of which is a break, and the cursor behind it. -/
def span (cursor : Cursor) (p : Char → Bool) : List Char × Cursor :=
  let taken := cursor.rest.takeWhile p
  (taken, cursor.skip taken.length)

/-- The cursor behind the blanks. -/
def skipBlanks (cursor : Cursor) : Cursor :=
  (cursor.span isBlank).2

/-- A break, if there is one, and the cursor behind it. -/
def takeBreak (cursor : Cursor) : List Char × Cursor :=
  match cursor.rest with
  | '\r' :: '\n' :: rest => (['\n'], ⟨rest, cursor.place.newLine 2⟩)
  | c :: rest => if isBreak c then (breakText c, ⟨rest, cursor.place.newLine 1⟩) else ([], cursor)
  | [] => ([], cursor)

/-- The cursor in the next line, if only blanks and a comment are left in this one. -/
def finishLine? (cursor : Cursor) : Option Cursor :=
  let cursor := cursor.skipBlanks
  let cursor := if cursor.peek? 0 = some '#' then (cursor.span (!isBreak ·)).2 else cursor
  if (cursor.peek? 0).all isBreak then some cursor.takeBreak.2 else none

/-- The line begins with three of this character and nothing more. -/
def isMark (cursor : Cursor) (c : Char) : Bool :=
  cursor.place.column == 0 && [c, c, c].isPrefixOf cursor.rest && isGap (cursor.peek? 3)

/-- The line begins with the mark that starts a document or the one that ends it. -/
def isDocumentMark (cursor : Cursor) : Bool :=
  cursor.isMark '-' || cursor.isMark '.'

end Cursor

end AppBoundary.Yaml
