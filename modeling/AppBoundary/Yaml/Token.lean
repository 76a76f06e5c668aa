-- The tokens of a YAML text. Indentation becomes tokens of its own, and a key
-- is only known as one when its colon comes.
import AppBoundary.Yaml.BlockScalar
import AppBoundary.Yaml.Name
import AppBoundary.Yaml.Scalar

namespace AppBoundary.Yaml

/-! ## Tokens -/

/-- The parts of a text that its structure is read from. -/
inductive Token
  | directive (content : Directive)
  | documentStart
  | documentEnd
  | sequenceStart
  | mappingStart
  /-- The end of an indented sequence or mapping. -/
  | blockEnd
  | entry
  | key
  | value
  | openBracket
  | closeBracket
  | openBrace
  | closeBrace
  | comma
  | anchor (name : List Char)
  | reference (name : List Char)
  | tag (content : Tag)
  | scalar (isPlain : Bool) (text : List Char)
  | textEnd

/-! ## The state of reading -/

/-- A place where a key may have begun. -/
structure KeyPlace where
  /-- The number of tokens before it. -/
  number : Nat
  place : Position
  /-- Nothing but a key can stand there. -/
  required : Bool

/-- The state between two tokens. -/
structure Scan where
  cursor : Cursor
  /-- The tokens so far, latest first. -/
  tokens : List Token
  /-- The columns of the open indented collections, innermost first. -/
  indents : List Nat
  /-- Where a key may have begun: inside each open bracket or brace, innermost first, and outside of
  all. -/
  keys : List (Option KeyPlace)
  /-- A key may begin at the next token. -/
  keyAllowed : Bool

namespace Scan

/-- Brackets or braces are open. -/
def inFlow (scan : Scan) : Bool :=
  1 < scan.keys.length

/-- The column of the cursor. -/
def column (scan : Scan) : Nat :=
  scan.cursor.place.column

/-- The column of the innermost indented collection is smaller than this one. -/
def isDeeper (scan : Scan) (column : Nat) : Bool :=
  scan.indents.head?.all (· < column)

/-- One more token. -/
def push (scan : Scan) (token : Token) : Scan :=
  { scan with tokens := token :: scan.tokens }

/-- One more token, and the cursor behind its sign. -/
def pushSign (scan : Scan) (token : Token) (width : Nat) : Scan :=
  { scan.push token with cursor := scan.cursor.skip width }

/-- A token put in before the ones from a number on. -/
def insert (scan : Scan) (number : Nat) (token : Token) : Scan :=
  let later := scan.tokens.length - number
  { scan with tokens := scan.tokens.take later ++ token :: scan.tokens.drop later }

/-! ## Indentation -/

/-- The start of an indented collection at a column, put in before the tokens from a number on, unless
the collection is open. -/
def indent (scan : Scan) (column number : Nat) (token : Token) : Scan :=
  if !scan.inFlow && scan.isDeeper column then
    { scan.insert number token with indents := column :: scan.indents }
  else scan

/-- The end of the innermost indented collections, one for each of the columns. -/
def closeBlocks (scan : Scan) (kept : List Nat) : Scan :=
  let closed := scan.indents.length - kept.length
  { scan with tokens := List.replicate closed .blockEnd ++ scan.tokens, indents := kept }

/-- The end of the indented collections that are deeper than the cursor. -/
def unindent (scan : Scan) : Scan :=
  if scan.inFlow then scan
  else scan.closeBlocks (scan.indents.dropWhile (scan.column < ·))

/-- The end of all indented collections. -/
def unindentAll (scan : Scan) : Scan :=
  if scan.inFlow then scan else scan.closeBlocks []

/-! ## Keys -/

/-- A key ends in the line where it begins, and within 1024 characters. -/
def isStale (cursor : Cursor) (key : KeyPlace) : Bool :=
  key.place.line < cursor.place.line || key.place.index + 1024 < cursor.place.index

/-- The state without the places whose key should have come. None of them may be one where nothing but
a key can stand. -/
def dropStale (scan : Scan) : Option Scan := do
  let keys ← scan.keys.mapM fun
    | none => some none
    | some key =>
      if !isStale scan.cursor key then some (some key) else if key.required then none else some none
  return { scan with keys := keys }

/-- The state with another innermost place of a key, in place of one that no key came for. -/
def setKey (scan : Scan) (key : Option KeyPlace) : Option Scan :=
  match scan.keys with
  | some old :: keys => if old.required then none else some { scan with keys := key :: keys }
  | _ :: keys => some { scan with keys := key :: keys }
  | [] => none

/-- The state where the innermost place is no longer that of a key. -/
def dropKey (scan : Scan) : Option Scan :=
  scan.setKey none

/-- The state where a key may begin at the cursor, if it is allowed to. -/
def markKey (scan : Scan) : Option Scan :=
  if scan.keyAllowed then
    let required := !scan.inFlow && scan.indents.head? == some scan.column
    scan.setKey (some ⟨scan.tokens.length, scan.cursor.place, required⟩)
  else some scan

/-- The state where a key may begin, or may not, at the next token. -/
def allowKey (scan : Scan) (allowed : Bool) : Scan :=
  { scan with keyAllowed := allowed }

/-! ## Between tokens -/

/-- The place of the next token behind blanks, comments and breaks, and whether a key may begin there.
A tab is a blank only where no key may begin. A byte order mark may begin a line. -/
def nextPlace (inFlow : Bool) : Bool → Bool → List Char → Position → Cursor × Bool
  | _, allowed, [], place => (⟨[], place⟩, allowed)
  | _, allowed, '\r' :: '\n' :: rest, place =>
    nextPlace inFlow false (allowed || !inFlow) rest (place.newLine 2)
  | inComment, allowed, c :: rest, place =>
    if isBreak c then nextPlace inFlow false (allowed || !inFlow) rest (place.newLine 1)
    else if inComment || c = ' ' || (c = '\t' && (inFlow || !allowed))
        || (c = '\ufeff' && place.column = 0) then
      nextPlace inFlow inComment allowed rest (place.skip 1)
    else if c = '#' then nextPlace inFlow true allowed rest (place.skip 1)
    else (⟨c :: rest, place⟩, allowed)

/-- The state at the next token. -/
def toNextToken (scan : Scan) : Option Scan := do
  let (cursor, allowed) := nextPlace scan.inFlow false scan.keyAllowed scan.cursor.rest scan.cursor.place
  let scan ← dropStale { scan with cursor := cursor, keyAllowed := allowed }
  return scan.unindent

/-! ## Single tokens -/

/-- A directive or the mark of a document, before which everything ends. -/
def atMargin (scan : Scan) : Option Scan := do
  return (← scan.unindentAll.dropKey).allowKey false

/-- The sign that opens a sequence or mapping in brackets or braces, which may be a key. -/
def openFlow (scan : Scan) (token : Token) : Option Scan := do
  let scan ← scan.markKey
  return ({ scan with keys := none :: scan.keys }.allowKey true).pushSign token 1

/-- The sign that closes it. -/
def closeFlow (scan : Scan) (token : Token) : Option Scan := do
  let scan ← scan.dropKey
  let keys := if scan.inFlow then scan.keys.tail else scan.keys
  return ({ scan with keys := keys }.allowKey false).pushSign token 1

/-- The sign of an entry in an indented sequence, or of a key in an indented mapping. -/
def blockSign (scan : Scan) (collection sign : Token) (allowed : Bool) : Option Scan := do
  if !scan.inFlow && !scan.keyAllowed then none
  let scan ← (scan.indent scan.column scan.tokens.length collection).dropKey
  return (scan.allowKey allowed).pushSign sign 1

/-- The sign of a value. What stands at the innermost place of a key is one now. -/
def valueSign (scan : Scan) : Option Scan :=
  match scan.keys.head?.join with
  | some key => do
    let scan := (scan.insert key.number .key).indent key.place.column key.number .mappingStart
    return ({ scan with keys := none :: scan.keys.tail }.allowKey false).pushSign .value 1
  | none =>
    if scan.inFlow then some ((scan.allowKey false).pushSign .value 1)
    else if !scan.keyAllowed then none
    else
      let scan := scan.indent scan.column scan.tokens.length .mappingStart
      some ((scan.allowKey true).pushSign .value 1)

/-- A token that may be a key, or begin one. -/
def keyToken (scan : Scan) (read : Cursor → Option (Token × Cursor)) : Option Scan := do
  let scan ← scan.markKey
  let (token, cursor) ← read scan.cursor
  return { (scan.allowKey false).push token with cursor := cursor }

/-- A plain scalar. After a break, a key may begin behind it. -/
def plain (scan : Scan) : Option Scan := do
  let scan ← scan.markKey
  let limit := scan.indents.head?.elim 0 (· + 1)
  let (text, broken, cursor) ← plainScalar scan.inFlow limit scan.cursor
  return { (scan.allowKey broken).push (.scalar true text) with cursor := cursor }

/-- A block scalar. -/
def block (scan : Scan) (folded : Bool) : Option Scan := do
  let scan ← scan.dropKey
  let (text, cursor) ← blockScalar folded scan.indents.head? scan.cursor
  return { (scan.allowKey true).push (.scalar false text) with cursor := cursor }

/-! ## All tokens -/

/-- A plain scalar may begin with this character, before the next one. -/
def beginsPlain (inFlow : Bool) (c : Char) (next : Option Char) : Bool :=
  if c = '-' then !next.any isBlank
  else if c = '?' ∨ c = ':' then !inFlow && !isGap next
  else
    !(isBlank c || isBreak c || isFlowSign c
      || ['#', '&', '*', '!', '|', '>', '\'', '"', '%', '@', '\u0060'].contains c)

/-- The state behind the token that begins with a character. -/
def token (scan : Scan) (c : Char) : Option Scan :=
  let cursor := scan.cursor
  let next := cursor.peek? 1
  if scan.column = 0 ∧ c = '%' then do
    let scan ← scan.atMargin
    let (content, cursor) ← directive scan.cursor
    return { scan.push (.directive content) with cursor := cursor }
  else if cursor.isMark '-' then scan.atMargin.map (·.pushSign .documentStart 3)
  else if cursor.isMark '.' then scan.atMargin.map (·.pushSign .documentEnd 3)
  else if c = '[' then scan.openFlow .openBracket
  else if c = '{' then scan.openFlow .openBrace
  else if c = ']' then scan.closeFlow .closeBracket
  else if c = '}' then scan.closeFlow .closeBrace
  else if c = ',' then scan.dropKey.map fun scan => (scan.allowKey true).pushSign .comma 1
  else if c = '-' ∧ isGap next then scan.blockSign .sequenceStart .entry true
  else if c = '?' ∧ (scan.inFlow ∨ isGap next) then
    scan.blockSign .mappingStart .key (!scan.inFlow)
  else if c = ':' ∧ (scan.inFlow ∨ isGap next) then scan.valueSign
  else if c = '*' then
    scan.keyToken fun cursor => (anchorName cursor).map fun (name, after) => (.reference name, after)
  else if c = '&' then
    scan.keyToken fun cursor => (anchorName cursor).map fun (name, after) => (.anchor name, after)
  else if c = '!' then
    scan.keyToken fun cursor => (tag scan.inFlow cursor).map fun (content, after) => (.tag content, after)
  else if c = '|' ∧ !scan.inFlow then scan.block false
  else if c = '>' ∧ !scan.inFlow then scan.block true
  else if c = '\'' ∨ c = '"' then
    scan.keyToken fun cursor =>
      (quotedScalar c cursor).map fun (text, after) => (.scalar false text, after)
  else if beginsPlain scan.inFlow c next then scan.plain
  else none

/-- The tokens up to the end of the text, latest first. -/
def toEnd : Nat → Scan → Option (List Token)
  | 0, _ => none
  | room + 1, scan => do
    let scan ← scan.toNextToken
    match scan.cursor.rest with
    | [] =>
      let scan ← scan.unindentAll.dropKey
      return .textEnd :: scan.tokens
    | c :: _ => toEnd room (← scan.token c)

end Scan

/-- The tokens of a text. Every token but the last takes at least one character. -/
def tokens? (text : List Char) : Option (List Token) := do
  if !text.all isAllowed then none
  let tokens ← Scan.toEnd (text.length + 1) ⟨.start text, [], [], [none], true⟩
  return tokens.reverse

end AppBoundary.Yaml
