-- Documents in TOML, read into one table of entries.
import AppBoundary.Toml.Number
import AppBoundary.Toml.Quoted
import AppBoundary.Toml.Table

namespace AppBoundary.Toml

/-! ## Keys -/

/-- Arrays and tables may stand inside each other, and keys may have parts, up to this depth. -/
def depthLimit : Nat :=
  80

/-- A character of a key without quotes. -/
def isKeyChar (c : Char) : Bool :=
  c.isAlphanum || c == '_' || c == '-'

/-- One part of a key. A key in quotes is written in one line. -/
def readKeyPart : List Char → Option (String × List Char)
  | [] => none
  | c :: rest =>
    if c = '"' ∨ c = '\'' then
      (readLine c rest).map fun (text, after) => (String.ofList text, after)
    else
      let word := (c :: rest).takeWhile isKeyChar
      if word.isEmpty then none else some (String.ofList word, (c :: rest).dropWhile isKeyChar)

/-- The parts of a key with the points between them, and the text behind them and their blanks. -/
def readKeyParts : Nat → List Char → Option (List String × List Char)
  | 0, _ => none
  | room + 1, cs => do
    let (part, rest) ← readKeyPart (skipBlanks cs)
    match skipBlanks rest with
    | '.' :: rest =>
      let (parts, rest) ← readKeyParts room rest
      return (part :: parts, rest)
    | rest => return ([part], rest)

/-- A key: the parts before the last one, the last one, and the text behind it. -/
def readKey (cs : List Char) : Option (List String × String × List Char) := do
  let (parts, rest) ← readKeyParts (depthLimit - 1) cs
  return (parts.dropLast, ← parts.getLast?, rest)

/-! ## Values -/

/-- The text behind a word. -/
def afterWord (word : String) (cs : List Char) : Option (List Char) :=
  if word.toList.isPrefixOf cs then some (cs.drop word.toList.length) else none

mutual

/-- A value inside so many arrays and tables. -/
def readValue : Nat → Nat → List Char → Option (Item × List Char)
  | 0, _, _ => none
  | _, _, [] => none
  | room + 1, depth, c :: rest =>
    if c = '"' ∨ c = '\'' then
      (readQuoted c (c :: rest)).map fun (text, after) => (.text text, after)
    else if c = '[' then
      if depthLimit ≤ depth + 1 then none
      else (readItems room (depth + 1) rest).map fun (items, after) => (.list items, after)
    else if c = '\x7b' then
      if depthLimit ≤ depth + 1 then none
      else (readFields room (depth + 1) rest).map fun (entries, after) => (.table .braces entries, after)
    else if c = 't' then (afterWord "true" (c :: rest)).map fun after => (.other, after)
    else if c = 'f' then (afterWord "false" (c :: rest)).map fun after => (.other, after)
    else (afterNumber (c :: rest)).map fun after => (.other, after)

/-- The items of an array up to its closing bracket, which a comma may precede. -/
def readItems : Nat → Nat → List Char → Option (List Item × List Char)
  | 0, _, _ => none
  | room + 1, depth, cs =>
    match skipLines false cs with
    | ']' :: rest => some ([], rest)
    | cs => do
      let (item, rest) ← readValue room depth cs
      match skipLines false rest with
      | ',' :: rest =>
        let (items, rest) ← readItems room depth rest
        return (item :: items, rest)
      | ']' :: rest => return ([item], rest)
      | _ => none

/-- The entries of a table between braces, all in one line. -/
def readFields : Nat → Nat → List Char → Option (Entries × List Char)
  | 0, _, _ => none
  | room + 1, depth, cs =>
    match skipBlanks cs with
    | '\x7d' :: rest => some ([], rest)
    | cs => readMoreFields room depth [] cs

/-- One more entry after some entries, and those behind it. -/
def readMoreFields : Nat → Nat → Entries → List Char → Option (Entries × List Char)
  | 0, _, _, _ => none
  | room + 1, depth, entries, cs => do
    let (path, key, rest) ← readKey cs
    match rest with
    | '=' :: rest =>
      let (item, rest) ← readValue room depth (skipBlanks rest)
      let entries ← entries.insert path key item
      match skipBlanks rest with
      | ',' :: rest => readMoreFields room depth entries rest
      | '\x7d' :: rest => return (entries, rest)
      | _ => none
    | _ => none

end

/-! ## Lines -/

/-- The entries so far, and the header that the next ones stand under. -/
structure Progress where
  entries : Entries
  header : List String

/-- A header, from its first bracket. -/
def readHeader (progress : Progress) : List Char → Option (Progress × List Char)
  | '[' :: '[' :: rest => do
    let (path, key, rest) ← readKey rest
    match rest with
    | ']' :: ']' :: rest => return (⟨← progress.entries.openRow path key, path ++ [key]⟩, rest)
    | _ => none
  | '[' :: rest => do
    let (path, key, rest) ← readKey rest
    match rest with
    | ']' :: rest => return (⟨← progress.entries.openTable path key, path ++ [key]⟩, rest)
    | _ => none
  | _ => none

/-- An entry under the current header. -/
def readEntry (progress : Progress) (cs : List Char) : Option (Progress × List Char) := do
  let (path, key, rest) ← readKey cs
  match rest with
  | '=' :: rest =>
    let (item, rest) ← readValue (2 * rest.length + 2) 0 (skipBlanks rest)
    let entries ← progress.entries.insertUnder progress.header path key item
    return (⟨entries, progress.header⟩, rest)
  | _ => none

/-- The entries of all lines. -/
def readAll : Nat → Progress → List Char → Option Entries
  | 0, _, _ => none
  | room + 1, progress, cs =>
    match skipBlanks cs with
    | [] => some progress.entries
    | c :: rest => do
      let (progress, rest) ←
        if c = '#' ∨ c = '\n' ∨ c = '\r' then some (progress, c :: rest)
        else if c = '[' then readHeader progress (c :: rest)
        else readEntry progress (c :: rest)
      readAll room progress (← finishLine? rest)

/-- The entries of a document, which may begin with a byte order mark. -/
def readDocument (text : String) : Option Entries :=
  let cs :=
    match text.toList with
    | '\ufeff' :: rest => rest
    | cs => cs
  readAll (cs.length + 1) ⟨[], []⟩ cs

end AppBoundary.Toml
