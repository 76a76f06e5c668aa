-- Names in a YAML text: anchors, tags and directives.
import AppBoundary.Text.Numeral
import AppBoundary.Yaml.Cursor

namespace AppBoundary.Yaml

/-! ## Anchors -/

/-- Signs that may stand directly behind an anchor. -/
def isAnchorEnd (c : Char) : Bool :=
  ['?', ':', ',', ']', '}', '%', '@', '\u0060'].contains c

/-- The name of an anchor, or of a reference to one, behind its sign. -/
def anchorName (cursor : Cursor) : Option (List Char × Cursor) :=
  let (name, after) := (cursor.skip 1).span isWord
  if name.isEmpty then none
  else if isGap (after.peek? 0) || (after.peek? 0).any isAnchorEnd then some (name, after)
  else none

/-! ## Characters of tags -/

/-- A character of a tag. Some signs are only allowed between angle brackets and in directives. -/
def isTagChar (wide : Bool) (c : Char) : Bool :=
  isWord c
    || [';', '/', '?', ':', '@', '&', '=', '+', '$', '.', '%', '!', '~', '*', '\'', '(', ')'].contains c
    || (wide && [',', '[', ']'].contains c)

/-- The number of octets of a character by its first one. -/
def octetCount? (octet : Nat) : Option Nat :=
  if octet < 0x80 then some 1
  else if octet < 0xc0 then none
  else if octet < 0xe0 then some 2
  else if octet < 0xf0 then some 3
  else if octet < 0xf8 then some 4
  else none

/-- The characters of a tag, octet by octet, where `owed` more octets of a character must follow in
their escaped form. -/
def tagCharsFrom (wide : Bool) : Nat → List Char → Option (List Char × List Char)
  | owed, '%' :: a :: b :: rest => do
    let octet := Text.ofDigits 16 (← [a, b].mapM Text.hexDigit?)
    let more ←
      if owed = 0 then (octetCount? octet).map (· - 1)
      else if 0x80 ≤ octet ∧ octet < 0xc0 then some (owed - 1) else none
    let (text, after) ← tagCharsFrom wide more rest
    return (Char.ofNat octet :: text, after)
  | owed, c :: rest =>
    if owed = 0 && !isTagChar wide c then some ([], c :: rest)
    else if owed = 0 && c ≠ '%' then
      (tagCharsFrom wide 0 rest).map fun (text, after) => (c :: text, after)
    else none
  | owed, [] => if owed = 0 then some ([], []) else none

/-- The characters of a tag up to the first one that is none. The zero octet ends what they mean. -/
def tagChars (wide : Bool) (cursor : Cursor) : Option (List Char × Cursor) := do
  let (text, after) ← tagCharsFrom wide 0 cursor.rest
  return (text.takeWhile (· ≠ '\x00'), cursor.moveTo after)

/-- The same, where there must be at least one. -/
def someTagChars (wide : Bool) (cursor : Cursor) : Option (List Char × Cursor) := do
  let (text, after) ← tagChars wide cursor
  if after.rest.length = cursor.rest.length then none else return (text, after)

/-! ## Tags -/

/-- A tag as it is written: the handle that stands for a beginning, and the ending. -/
structure Tag where
  handle : List Char
  ending : List Char

/-- The tag at a cursor. -/
def tagAt (cursor : Cursor) : Option (Tag × Cursor) := do
  if cursor.peek? 1 = some '<' then
    let (text, after) ← someTagChars true (cursor.skip 2)
    if after.peek? 0 ≠ some '>' then none
    return (⟨[], text⟩, after.skip 1)
  let (word, after) := (cursor.skip 1).span isWord
  if after.peek? 0 = some '!' then
    let (text, after) ← someTagChars false (after.skip 1)
    return (⟨'!' :: word ++ ['!'], text⟩, after)
  let (text, after) ← tagChars false after
  if word.isEmpty && text.isEmpty then return (⟨[], ['!']⟩, after)
  return (⟨['!'], word ++ text⟩, after)

/-- A tag with what must stand behind it. -/
def tag (inFlow : Bool) (cursor : Cursor) : Option (Tag × Cursor) := do
  let (tag, after) ← tagAt cursor
  if isGap (after.peek? 0) || (inFlow && after.peek? 0 == some ',') then return (tag, after)
  none

/-! ## Directives -/

/-- A line that tells something about the document that follows. -/
inductive Directive
  | version (major minor : Nat)
  | handle (name stem : List Char)

/-- A part of a version: at most nine digits. -/
def versionPart (cursor : Cursor) : Option (Nat × Cursor) := do
  let (digits, after) := cursor.span fun c => (Text.digit? c).isSome
  if 9 < digits.length then none
  return (← Text.natural? digits, after)

/-- What a version directive tells. -/
def versionDirective (cursor : Cursor) : Option (Directive × Cursor) := do
  let (major, cursor) ← versionPart cursor.skipBlanks
  if cursor.peek? 0 ≠ some '.' then none
  let (minor, cursor) ← versionPart (cursor.skip 1)
  return (.version major minor, cursor)

/-- What a handle directive tells. -/
def handleDirective (cursor : Cursor) : Option (Directive × Cursor) := do
  let cursor := cursor.skipBlanks
  if cursor.peek? 0 ≠ some '!' then none
  let (word, cursor) := (cursor.skip 1).span isWord
  let closed := cursor.peek? 0 = some '!'
  if !closed && !word.isEmpty then none
  let cursor := if closed then cursor.skip 1 else cursor
  if !(cursor.peek? 0).any isBlank then none
  let (stem, cursor) ← someTagChars true cursor.skipBlanks
  if !isGap (cursor.peek? 0) then none
  return (.handle ('!' :: word ++ if closed then ['!'] else []) stem, cursor)

/-- The directive in a line, from its percent sign, and the cursor in the next line. -/
def directive (cursor : Cursor) : Option (Directive × Cursor) := do
  let (name, cursor) := (cursor.skip 1).span isWord
  if !isGap (cursor.peek? 0) then none
  let (found, cursor) ←
    if name = ['Y', 'A', 'M', 'L'] then versionDirective cursor
    else if name = ['T', 'A', 'G'] then handleDirective cursor
    else none
  return (found, ← cursor.finishLine?)

end AppBoundary.Yaml
