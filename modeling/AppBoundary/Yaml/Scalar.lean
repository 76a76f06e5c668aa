-- Scalars that flow over lines: plain ones, and ones in quotation marks.
import AppBoundary.Text.Numeral
import AppBoundary.Yaml.Gap

namespace AppBoundary.Yaml

/-! ## Plain scalars -/

/-- Signs that end a plain scalar inside brackets and braces. -/
def isFlowSign (c : Char) : Bool :=
  [',', '[', ']', '{', '}'].contains c

/-- A stretch of a plain scalar up to a blank, a break or a sign that ends it. Inside brackets and
braces, a colon must not stand before one of their signs. -/
def plainStretch (inFlow : Bool) : List Char → Option (List Char × List Char)
  | [] => some ([], [])
  | c :: rest =>
    if isBlank c || isBreak c then some ([], c :: rest)
    else if inFlow && c == ':' && rest.head?.any (fun d => isFlowSign d || d == '?') then none
    else if (c == ':' && isGap rest.head?) || (inFlow && isFlowSign c) then some ([], c :: rest)
    else (plainStretch inFlow rest).map fun (text, after) => (c :: text, after)

/-- The stretches of a plain scalar after the gap that was read last. The answer tells whether a break
was passed at the end. A further line must be indented to the column `limit`, except inside
brackets and braces. -/
def plainFrom (inFlow : Bool) (limit : Nat) :
    Nat → Gap → Cursor → Option (List Char × Bool × Cursor)
  | 0, _, _ => none
  | room + 1, gap, cursor => do
    if cursor.isDocumentMark || cursor.peek? 0 == some '#' then return ([], gap.broken, cursor)
    let (stretch, after) ← plainStretch inFlow cursor.rest
    if stretch.isEmpty then return ([], gap.broken, cursor)
    let cursor := cursor.moveTo after
    let text := gap.text ++ stretch
    if !isGap (cursor.peek? 0) || after.isEmpty then return (text, false, cursor)
    let (gap, cursor) ← Gap.none.read limit cursor
    if !inFlow && cursor.place.column < limit then return (text, gap.broken, cursor)
    let (more, broken, cursor) ← plainFrom inFlow limit room gap cursor
    return (text ++ more, broken, cursor)

/-- A plain scalar. -/
def plainScalar (inFlow : Bool) (limit : Nat) (cursor : Cursor) :
    Option (List Char × Bool × Cursor) :=
  plainFrom inFlow limit (cursor.rest.length + 1) .none cursor

/-! ## Escapes -/

/-- Escapes of one letter. -/
def escape? : Char → Option Char
  | '0' => some '\x00'
  | 'a' => some '\x07'
  | 'b' => some '\x08'
  | 't' | '\t' => some '\t'
  | 'n' => some '\n'
  | 'v' => some '\x0b'
  | 'f' => some '\x0c'
  | 'r' => some '\r'
  | 'e' => some '\x1b'
  | ' ' => some ' '
  | '"' => some '"'
  | '/' => some '/'
  | '\\' => some '\\'
  | 'N' => some '\u0085'
  | '_' => some '\u00a0'
  | 'L' => some '\u2028'
  | 'P' => some '\u2029'
  | _ => none

/-- The number of digits after the letter of an escape by code. -/
def escapeWidth? : Char → Option Nat
  | 'x' => some 2
  | 'u' => some 4
  | 'U' => some 8
  | _ => none

/-! ## Quoted scalars -/

/-- A stretch between single quotes, where a quote is written twice. It ends before a blank, a break
or the closing quote. -/
def singleStretch : List Char → List Char × List Char
  | '\'' :: '\'' :: rest =>
    let (text, after) := singleStretch rest
    ('\'' :: text, after)
  | c :: rest =>
    if c = '\'' || isBlank c || isBreak c then ([], c :: rest)
    else
      let (text, after) := singleStretch rest
      (c :: text, after)
  | [] => ([], [])

/-- A stretch between double quotes. It ends before a blank, a break, an escaped break or the closing
quote. -/
def doubleStretch (cs : List Char) : Option (List Char × List Char) :=
  match cs with
  | [] => some ([], [])
  | ['\\'] => none
  | '\\' :: c :: rest =>
    if isBreak c then some ([], cs)
    else
      match escape? c, escapeWidth? c with
      | some e, _ => (doubleStretch rest).map fun (text, after) => (e :: text, after)
      | none, some width => do
        let e ← Text.charOfDigits? width (rest.take width)
        let (text, after) ← doubleStretch (rest.drop width)
        return (e :: text, after)
      | none, none => none
  | c :: rest =>
    if c = '"' || isBlank c || isBreak c then some ([], cs)
    else (doubleStretch rest).map fun (text, after) => (c :: text, after)
termination_by cs.length
decreasing_by all_goals grind

/-- The stretches of a quoted scalar up to its closing quote. No line of it may begin with the mark of
a document. -/
def quotedFrom (quote : Char) : Nat → Cursor → Option (List Char × Cursor)
  | 0, _ => none
  | room + 1, cursor => do
    if cursor.isDocumentMark || cursor.rest.isEmpty then none
    let (stretch, after) ←
      if quote = '"' then doubleStretch cursor.rest else some (singleStretch cursor.rest)
    let cursor := cursor.moveTo after
    if cursor.peek? 0 == some quote then return (stretch, cursor.skip 1)
    let (gap, cursor) ←
      if cursor.peek? 0 == some '\\' then Gap.escaped.read 0 (cursor.skip 1).takeBreak.2
      else Gap.none.read 0 cursor
    let (more, cursor) ← quotedFrom quote room cursor
    return (stretch ++ gap.text ++ more, cursor)

/-- A scalar in quotes of the given kind, from its opening quote. -/
def quotedScalar (quote : Char) (cursor : Cursor) : Option (List Char × Cursor) :=
  quotedFrom quote (cursor.rest.length + 1) (cursor.skip 1)

end AppBoundary.Yaml
