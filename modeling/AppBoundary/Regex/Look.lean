-- Conditions on a place in a text: its ends, the ends of lines, and the ends
-- of words.
import AppBoundary.Unicode.Property

namespace AppBoundary.Regex

/-! ## Conditions -/

/-- A condition on the characters before and behind a place. -/
inductive Look
  | textStart
  | textEnd
  /-- The start of a line after a line feed. -/
  | lineStart
  | lineEnd
  /-- The start of a line after a line feed, a carriage return, or the two together. -/
  | returnLineStart
  | returnLineEnd
  | wordBoundary (unicode : Bool)
  | notWordBoundary (unicode : Bool)
  | wordStart (unicode : Bool)
  | wordEnd (unicode : Bool)
  /-- No word character stands before the place. -/
  | wordStartHalf (unicode : Bool)
  /-- No word character stands behind the place. -/
  | wordEndHalf (unicode : Bool)
deriving DecidableEq

/-- The ASCII characters of words. -/
def asciiWord : Unicode.CharSet :=
  .ofRanges [(0x30, 0x39), (0x41, 0x5A), (0x5F, 0x5F), (0x61, 0x7A)]

/-- A character of a word. -/
def isWord (unicode : Bool) (c : Char) : Bool :=
  if unicode && 0x80 ≤ c.toNat then Unicode.wordCharacters.contains c else asciiWord.contains c

/-- The condition holds between the character `before` and the character `behind`, where the text
has them. -/
def Look.holds (look : Look) (before behind : Option Char) : Bool :=
  let wordBefore := fun unicode => before.any (isWord unicode)
  let wordBehind := fun unicode => behind.any (isWord unicode)
  match look with
  | .textStart => before.isNone
  | .textEnd => behind.isNone
  | .lineStart => before.isNone || before == some '\n'
  | .lineEnd => behind.isNone || behind == some '\n'
  | .returnLineStart =>
    before.isNone || before == some '\n' || (before == some '\r' && behind != some '\n')
  | .returnLineEnd =>
    behind.isNone || behind == some '\r' || (behind == some '\n' && before != some '\r')
  | .wordBoundary unicode => wordBefore unicode != wordBehind unicode
  | .notWordBoundary unicode => wordBefore unicode == wordBehind unicode
  | .wordStart unicode => !wordBefore unicode && wordBehind unicode
  | .wordEnd unicode => wordBefore unicode && !wordBehind unicode
  | .wordStartHalf unicode => !wordBefore unicode
  | .wordEndHalf unicode => !wordBehind unicode

end AppBoundary.Regex
