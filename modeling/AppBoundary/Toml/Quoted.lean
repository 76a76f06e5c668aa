-- Texts in quotation marks, in one line or in several.
import AppBoundary.Text.Numeral
import AppBoundary.Toml.Blank

namespace AppBoundary.Toml

/-! ## Escapes -/

/-- Escapes of one letter. -/
def escape? : Char → Option Char
  | 'b' => some '\x08'
  | 'f' => some '\x0c'
  | 'n' => some '\n'
  | 'r' => some '\r'
  | 't' => some '\t'
  | '"' => some '"'
  | '\\' => some '\\'
  | _ => none

/-- The number of digits of an escape by code. -/
def escapeWidth? : Char → Option Nat
  | 'u' => some 4
  | 'U' => some 8
  | _ => none

/-- An escape behind its backslash: the character and the length of its spelling. -/
def readEscape : List Char → Option (Char × Nat)
  | [] => none
  | c :: rest =>
    match escape? c, escapeWidth? c with
    | some e, _ => some (e, 1)
    | none, some width => (Text.charOfDigits? width (rest.take width)).map (·, width + 1)
    | none, none => none

/-! ## One line -/

/-- A text up to its closing quote in the same line. Only double quotes know escapes. -/
def readLine (quote : Char) (cs : List Char) : Option (List Char × List Char) :=
  match cs with
  | [] => none
  | c :: rest =>
    if c = quote then some ([], rest)
    else if c = '\\' ∧ quote = '"' then do
      let (e, width) ← readEscape rest
      let (text, after) ← readLine quote (rest.drop width)
      return (e :: text, after)
    else if isPrintable c then
      (readLine quote rest).map fun (text, after) => (c :: text, after)
    else none
termination_by cs.length
decreasing_by all_goals grind

/-! ## Several lines -/

/-- The text behind blanks and breaks. -/
def skipBlanksAndBreaks : List Char → List Char
  | '\r' :: '\n' :: rest => skipBlanksAndBreaks rest
  | c :: rest => if isBlank c || c = '\n' then skipBlanksAndBreaks rest else c :: rest
  | [] => []

/-- The text behind an escaped break, with the blanks and breaks around it. -/
def afterEscapedBreak? (cs : List Char) : Option (List Char) :=
  (takeBreak? (skipBlanks cs)).map skipBlanksAndBreaks

/-- A text up to its three closing quotes. Up to two more quotes may stand before them. -/
def readLinesFrom (quote : Char) : Nat → List Char → Option (List Char × List Char)
  | 0, _ => none
  | _ + 1, [] => none
  | room + 1, c :: rest =>
    let add := fun (text : List Char) (after : List Char) =>
      (readLinesFrom quote room after).map fun (more, after) => (text ++ more, after)
    if c = quote then
      let quotes := ((c :: rest).takeWhile (· = quote)).length
      if quotes < 3 then add [c] rest
      else
        let extra := min quotes 5 - 3
        some (List.replicate extra quote, rest.drop (extra + 2))
    else if c = '\\' ∧ quote = '"' then
      match afterEscapedBreak? rest with
      | some after => add [] after
      | none => (readEscape rest).bind fun (e, width) => add [e] (rest.drop width)
    else
      match takeBreak? (c :: rest) with
      | some after => add ['\n'] after
      | none => if isPrintable c then add [c] rest else none

/-- A text from behind its three opening quotes. A break directly behind them does not count. -/
def readLines (quote : Char) (cs : List Char) : Option (List Char × List Char) :=
  readLinesFrom quote (cs.length + 1) ((takeBreak? cs).getD cs)

/-! ## Both -/

/-- A text in quotes of either kind, from its first quote. -/
def readQuoted (quote : Char) (cs : List Char) : Option (List Char × List Char) :=
  if [quote, quote, quote].isPrefixOf cs then readLines quote (cs.drop 3)
  else readLine quote (cs.drop 1)

end AppBoundary.Toml
