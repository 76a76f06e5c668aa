-- Block scalars: indented lines behind a bar or an angle, which are kept or
-- folded.
import AppBoundary.Text.Numeral
import AppBoundary.Yaml.Cursor

namespace AppBoundary.Yaml

/-! ## Headers -/

/-- What becomes of the breaks at the end of a block scalar. -/
inductive Chomping
  | strip
  | clip
  | keep
deriving DecidableEq

/-- The chomping that a sign asks for. -/
def chomping? : Option Char → Option Chomping
  | some '+' => some .keep
  | some '-' => some .strip
  | _ => none

/-- The indentation that a header gives: nothing if there is no digit, and no header if it is zero. -/
def indentation? (c : Option Char) : Option (Option Nat) :=
  match c.bind Text.digit? with
  | none => some none
  | some 0 => none
  | some n => some (some n)

/-- The signs of a header in either order, and the cursor behind them. -/
def blockHeader (cursor : Cursor) : Option (Chomping × Option Nat × Cursor) := do
  let after := fun (cursor : Cursor) (found : Bool) => if found then cursor.skip 1 else cursor
  match chomping? (cursor.peek? 0) with
  | some chomping =>
    let cursor := cursor.skip 1
    let indent ← indentation? (cursor.peek? 0)
    return (chomping, indent, after cursor indent.isSome)
  | none =>
    let indent ← indentation? (cursor.peek? 0)
    let cursor := after cursor indent.isSome
    let chomping := if indent.isSome then chomping? (cursor.peek? 0) else none
    return (chomping.getD .clip, indent, after cursor chomping.isSome)

/-! ## Lines -/

/-- The indentation and the empty lines before a line of a block scalar, with the widest indentation
seen. While `indent` is not known, all blanks belong to the indentation; a tab never does. -/
def blockIndent (indent : Option Nat) :
    List Char → Position → Nat → Option (List Char × Nat × Cursor)
  | [], place, widest => some ([], max widest place.column, ⟨[], place⟩)
  | '\r' :: '\n' :: rest, place, widest =>
    (blockIndent indent rest (place.newLine 2) (max widest place.column)).map
      fun (breaks, found) => ('\n' :: breaks, found)
  | c :: rest, place, widest =>
    let within := indent.all (place.column < ·)
    if c = ' ' && within then blockIndent indent rest (place.skip 1) widest
    else if c = '\t' && within then none
    else if isBreak c then
      (blockIndent indent rest (place.newLine 1) (max widest place.column)).map
        fun (breaks, found) => (breakText c ++ breaks, found)
    else some ([], max widest place.column, ⟨c :: rest, place⟩)

/-- A line of a block scalar, the break that ends it, and the empty lines after it. -/
structure BlockLine where
  text : List Char
  ending : List Char
  empties : List Char

/-- The lines that are indented to a column. -/
def blockLines (indent : Nat) : Nat → Cursor → Option (List BlockLine × Cursor)
  | 0, _ => none
  | room + 1, cursor => do
    if cursor.place.column != indent || cursor.rest.isEmpty then return ([], cursor)
    let (text, cursor) := cursor.span (!isBreak ·)
    let (ending, cursor) := cursor.takeBreak
    let (empties, _, cursor) ← blockIndent (some indent) cursor.rest cursor.place 0
    let (lines, cursor) ← blockLines indent room cursor
    return (⟨text, ending, empties⟩ :: lines, cursor)

/-! ## Content -/

/-- The content of the lines that follow a break and empty lines. Between two lines that do not begin
with a blank, a folded scalar has a blank for a single line feed, and one line feed fewer for
several. -/
def blockText (folded : Bool) (chomping : Chomping) :
    Bool → List Char → List Char → List BlockLine → List Char
  | _, ending, empties, [] =>
    (if chomping = .strip then [] else ending) ++ (if chomping = .keep then empties else [])
  | afterBlank, ending, empties, line :: lines =>
    let beforeBlank := line.text.head?.any isBlank
    let joint :=
      if folded && ending = ['\n'] && !afterBlank && !beforeBlank then
        if empties.isEmpty then [' '] else []
      else ending
    joint ++ empties ++ line.text
      ++ blockText folded chomping beforeBlank line.ending line.empties lines

/-- A block scalar, from its bar or angle. Its lines are indented deeper than the node around it,
whose column is `outer`; the header tells how much deeper, or else the first line. -/
def blockScalar (folded : Bool) (outer : Option Nat) (cursor : Cursor) :
    Option (List Char × Cursor) := do
  let (chomping, increment, cursor) ← blockHeader (cursor.skip 1)
  let cursor ← cursor.finishLine?
  let indent := increment.map fun n => outer.getD 0 + n
  let (empties, widest, cursor) ← blockIndent indent cursor.rest cursor.place 0
  let least := max 1 (outer.elim 0 (· + 1))
  let indent := indent.getD (max widest least)
  let (lines, cursor) ← blockLines indent (cursor.rest.length + 1) cursor
  return (blockText folded chomping false [] empties lines, cursor)

end AppBoundary.Yaml
