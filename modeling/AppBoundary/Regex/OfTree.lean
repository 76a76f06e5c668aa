-- The regular expression that a written pattern means under its flags. What
-- could match half a character, where a pattern is about bytes, is refused.
import AppBoundary.Regex.Basic
import AppBoundary.Regex.Tree
import AppBoundary.Unicode.CaseFolding

namespace AppBoundary.Regex

open Unicode (CharSet)

/-! ## Flags in force -/

/-- The flags in force at a place of a pattern. -/
structure Flags where
  caseless : Bool := false
  multiLine : Bool := false
  dotAll : Bool := false
  swapGreed : Bool := false
  unicode : Bool := true
  returnLines : Bool := false
deriving DecidableEq

/-- The flags after one change. -/
def Flags.set (flags : Flags) (change : Flag × Bool) : Flags :=
  match change.1 with
  | .caseless => { flags with caseless := change.2 }
  | .multiLine => { flags with multiLine := change.2 }
  | .dotAll => { flags with dotAll := change.2 }
  | .swapGreed => { flags with swapGreed := change.2 }
  | .unicode => { flags with unicode := change.2 }
  | .returnLines => { flags with returnLines := change.2 }
  | .ignoreBlanks => flags

/-- The flags after some changes. -/
def Flags.apply (flags : Flags) (changes : FlagChanges) : Flags :=
  changes.foldl Flags.set flags

/-! ## Sets -/

/-- The set with the other case of its ASCII letters. -/
def foldAscii (set : CharSet) : CharSet :=
  CharSet.ofRanges (set.ranges ++ ((List.range 26).flatMap fun i =>
    (if set.containsCode (0x41 + i) then [(0x61 + i, 0x61 + i)] else [])
      ++ (if set.containsCode (0x61 + i) then [(0x41 + i, 0x41 + i)] else [])))

/-- The set closed under case where case does not count. -/
def Flags.fold (flags : Flags) (set : CharSet) : CharSet :=
  if flags.caseless then if flags.unicode then set.foldCase else foldAscii set else set

/-- The set or its complement. The complement of a set of bytes holds bytes that are no
characters. -/
def Flags.negate (flags : Flags) (negated : Bool) (set : CharSet) : Option CharSet :=
  if negated then if flags.unicode then some set.complement else none else some set

/-- The characters of a letter class. -/
def LetterClass.set (unicode : Bool) : LetterClass → CharSet
  | .digit => if unicode then Unicode.digits else .ofRanges [(0x30, 0x39)]
  | .space => if unicode then Unicode.spaces else .ofRanges [(0x09, 0x0D), (0x20, 0x20)]
  | .word => if unicode then Unicode.wordCharacters else asciiWord

/-- The characters of a property. -/
def PropertyQuery.set? : PropertyQuery → Option CharSet
  | .name text => Unicode.property? text
  | .value property text => Unicode.propertyValue? property text

/-- The characters of a property class. -/
def Flags.property (flags : Flags) (negated : Bool) (query : PropertyQuery) : Option CharSet :=
  if flags.unicode then query.set?.bind fun set => flags.negate negated (flags.fold set) else none

/-- The code of a literal inside a class. Where a pattern is about bytes, only ASCII has one. -/
def Flags.code? (flags : Flags) (literal : Literal) : Option Nat :=
  if flags.unicode || literal.char.toNat < 0x80 then some literal.char.toNat else none

def SetOperation.apply : SetOperation → CharSet → CharSet → CharSet
  | .inter => CharSet.inter
  | .diff => CharSet.diff
  | .symmDiff => CharSet.symmDiff

/-- The characters of a class. -/
def ClassTree.set? (flags : Flags) : ClassTree → Option CharSet
  | .nothing => some .empty
  | .literal l => (flags.code? l).map fun code => .ofRanges [(code, code)]
  | .range first last =>
    (flags.code? first).bind fun low => (flags.code? last).map fun high => .ofRanges [(low, high)]
  | .ascii negated ranges => flags.negate negated (flags.fold (.ofRanges ranges))
  | .property negated query => flags.property negated query
  | .letter negated cls => flags.negate negated (cls.set flags.unicode)
  | .bracketed negated body =>
    (body.set? flags).bind fun set => flags.negate negated (flags.fold set)
  | .both first second =>
    (first.set? flags).bind fun a => (second.set? flags).map fun b => a.union b
  | .operation op first second =>
    (first.set? flags).bind fun a =>
      (second.set? flags).map fun b => op.apply (flags.fold a) (flags.fold b)

/-! ## Single parts -/

/-- A literal. Where case does not count it is the set of its forms. -/
def Flags.literal (flags : Flags) (literal : Literal) : Option Regex :=
  if !flags.unicode && literal.isByte && 0x80 ≤ literal.char.toNat then none
  else if flags.caseless then some (.set (flags.fold (.single literal.char)))
  else some (.char literal.char)

/-- Any character, with or without the ends of lines. -/
def Flags.dot (flags : Flags) : Option Regex :=
  if !flags.unicode then none
  else if flags.dotAll then some (.set .all)
  else if flags.returnLines then some (.set (CharSet.ofRanges [(0x0A, 0x0A), (0x0D, 0x0D)]).complement)
  else some Regex.dot

/-- A condition on a place. -/
def Flags.look (flags : Flags) : Assertion → Look
  | .lineStart =>
    if flags.multiLine then if flags.returnLines then .returnLineStart else .lineStart
    else .textStart
  | .lineEnd =>
    if flags.multiLine then if flags.returnLines then .returnLineEnd else .lineEnd else .textEnd
  | .textStart => .textStart
  | .textEnd => .textEnd
  | .wordBoundary => .wordBoundary flags.unicode
  | .notWordBoundary => .notWordBoundary flags.unicode
  | .wordStart => .wordStart flags.unicode
  | .wordEnd => .wordEnd flags.unicode
  | .wordStartHalf => .wordStartHalf flags.unicode
  | .wordEndHalf => .wordEndHalf flags.unicode

/-! ## Patterns -/

mutual

/-- The expression of a pattern, and the flags behind it. Flags hold up to the end of their group,
across its branches. -/
def ofTree (flags : Flags) : Tree → Option (Regex × Flags)
  | .empty => some (.empty, flags)
  | .literal l => (flags.literal l).map fun regex => (regex, flags)
  | .dot => flags.dot.map fun regex => (regex, flags)
  | .assertion kind => some (.look (flags.look kind), flags)
  | .property negated query =>
    (flags.property negated query).map fun set => (.set set, flags)
  | .letter negated cls =>
    (flags.negate negated (cls.set flags.unicode)).map fun set => (.set set, flags)
  | .bracketed negated body =>
    ((body.set? flags).bind fun set => flags.negate negated (flags.fold set)).map fun set =>
      (.set set, flags)
  | .flags changes => some (.empty, flags.apply changes)
  | .capture body => (ofTree flags body).map fun (regex, _) => (.capture regex, flags)
  | .group changes body =>
    (ofTree (flags.apply changes) body).map fun (regex, _) => (regex, flags)
  | .times body least most greedy =>
    (ofTree flags body).map fun (regex, after) =>
      (regex.repeated least most (greedy != after.swapGreed), after)
  | .concat parts => (ofTrees flags parts).map fun (parts, after) =>
      (.sequence (parts.filter (· != .empty)), after)
  | .alternation branches =>
    (ofTrees flags branches).map fun (branches, after) => (.choice branches, after)

/-- The expressions of a list of patterns, each under the flags that the one before leaves. -/
def ofTrees (flags : Flags) : List Tree → Option (List Regex × Flags)
  | [] => some ([], flags)
  | tree :: rest =>
    (ofTree flags tree).bind fun (regex, flags) =>
      (ofTrees flags rest).map fun (regexes, after) => (regex :: regexes, after)

end

end AppBoundary.Regex
