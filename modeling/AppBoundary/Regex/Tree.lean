-- Patterns as written: the tree of a regular expression before its flags are
-- applied.

namespace AppBoundary.Regex

/-! ## Flags -/

/-- The switches of a pattern. Ignoring blanks is a switch of the reader alone. -/
inductive Flag
  | caseless
  | multiLine
  | dotAll
  | swapGreed
  | unicode
  | returnLines
  | ignoreBlanks
deriving DecidableEq

/-- Switches put on or off, in the order written. -/
abbrev FlagChanges := List (Flag × Bool)

/-! ## Characters and classes -/

/-- A character of a pattern. One given by two hexadecimal digits stands for a byte where patterns
are about bytes. -/
structure Literal where
  char : Char
  isByte : Bool
deriving DecidableEq

/-- Digits, blanks or word characters. -/
inductive LetterClass
  | digit
  | space
  | word
deriving DecidableEq

/-- A character property by name, or by name and value. -/
inductive PropertyQuery
  | name (name : List Char)
  | value (name value : List Char)
deriving DecidableEq

inductive SetOperation
  | inter
  | diff
  | symmDiff
deriving DecidableEq

/-- What may stand between the brackets of a class. -/
inductive ClassTree
  | nothing
  | literal (literal : Literal)
  | range (first last : Literal)
  /-- A named ASCII class, with its ranges. -/
  | ascii (negated : Bool) (ranges : List (Nat × Nat))
  | property (negated : Bool) (query : PropertyQuery)
  | letter (negated : Bool) (cls : LetterClass)
  /-- A class inside the class. -/
  | bracketed (negated : Bool) (body : ClassTree)
  | both (first second : ClassTree)
  | operation (op : SetOperation) (first second : ClassTree)
deriving DecidableEq

/-! ## Patterns -/

/-- Conditions on a place, before flags say what a line and a word are. -/
inductive Assertion
  | lineStart
  | lineEnd
  | textStart
  | textEnd
  | wordBoundary
  | notWordBoundary
  | wordStart
  | wordEnd
  | wordStartHalf
  | wordEndHalf
deriving DecidableEq

/-- A pattern as written. -/
inductive Tree
  | empty
  | literal (literal : Literal)
  | dot
  | assertion (assertion : Assertion)
  | property (negated : Bool) (query : PropertyQuery)
  | letter (negated : Bool) (cls : LetterClass)
  | bracketed (negated : Bool) (body : ClassTree)
  /-- Flags for the rest of the group. -/
  | flags (changes : FlagChanges)
  /-- A group that a match reports. -/
  | capture (body : Tree)
  /-- A group with flags of its own. -/
  | group (changes : FlagChanges) (body : Tree)
  | times (body : Tree) (least : Nat) (most : Option Nat) (greedy : Bool)
  | concat (parts : List Tree)
  | alternation (branches : List Tree)

/-! ## Depth -/

/-- How deep the parts of a class are nested. A list of more than one item is a level, and so are
brackets and operations. The flag says that the tree continues such a list. -/
def ClassTree.depth (inList : Bool) : ClassTree → Nat
  | .nothing | .literal _ | .range _ _ | .ascii _ _ | .property _ _ | .letter _ _ => 0
  | .bracketed _ body => body.depth false + 1
  | .both first second =>
    max (first.depth true) (second.depth false) + (if inList then 0 else 1)
  | .operation _ first second => max (first.depth false) (second.depth false) + 1

mutual

/-- How deep the parts of a pattern are nested. -/
def Tree.depth : Tree → Nat
  | .empty | .literal _ | .dot | .assertion _ | .property _ _ | .letter _ _ | .flags _ => 0
  | .bracketed _ body => body.depth false + 1
  | .capture body => body.depth + 1
  | .group _ body => body.depth + 1
  | .times body _ _ _ => body.depth + 1
  | .concat parts => Tree.maxDepth parts + 1
  | .alternation branches => Tree.maxDepth branches + 1

/-- The greatest depth in a list of patterns. -/
def Tree.maxDepth : List Tree → Nat
  | [] => 0
  | tree :: rest => max tree.depth (maxDepth rest)

end

end AppBoundary.Regex
