-- The size of the program that a regular expression stands for: a machine that
-- reads the bytes of UTF-8, forwards to find the end of a match and backwards
-- to find its start. Repetitions are written out in it, so a short expression
-- can be too large. The sizes are an estimate: what the branches of a choice
-- have in common is shared among texts only.
import AppBoundary.Regex.Basic
import AppBoundary.Regex.Trie

namespace AppBoundary.Regex

/-! ## Characters as bytes -/

/-- The bytes of a character, given by its code. -/
def codeBytes (code : Nat) : List Nat :=
  if code < 0x80 then [code]
  else if code < 0x800 then [0xC0 + code / 0x40, 0x80 + code % 0x40]
  else if code < 0x10000 then
    [0xE0 + code / 0x1000, 0x80 + code / 0x40 % 0x40, 0x80 + code % 0x40]
  else
    [0xF0 + code / 0x40000, 0x80 + code / 0x1000 % 0x40, 0x80 + code / 0x40 % 0x40,
     0x80 + code % 0x40]

/-- A place to cut a range of codes, behind which the second part begins: codes of different length
and surrogates lie apart, and so do codes that do not run through all values of their last bytes. -/
def cutOf (first last : Nat) : Option Nat :=
  let apart := [0x7F, 0x7FF, 0xD7FF, 0xDFFF, 0xFFFF].find? fun code => first ≤ code && code < last
  let unaligned := [0x40, 0x1000, 0x40000].findSome? fun block =>
    if first / block = last / block then none
    else if first % block ≠ 0 then some (first / block * block + block - 1)
    else if last % block ≠ block - 1 then some (last / block * block - 1)
    else none
  apart.or (if last < 0x80 then none else unaligned)

/-- The ranges of bytes, one list for each set of texts that has a range for each of its bytes, that
make up the codes of a range. Surrogates have none. Each cut halves a block or takes one off, and
the bound is above the number of cuts. -/
def byteRanges : Nat → Nat → Nat → List (List (Nat × Nat))
  | 0, _, _ => []
  | steps + 1, first, last =>
    if last < first ∨ (0xD800 ≤ first ∧ last ≤ 0xDFFF) then []
    else
      match cutOf first last with
      | some cut => byteRanges steps first cut ++ byteRanges steps (cut + 1) last
      | none => [(codeBytes first).zip (codeBytes last)]

/-- The byte ranges of all characters of a set. -/
def setBytes (set : Unicode.CharSet) : List (List (Nat × Nat)) :=
  set.ranges.flatMap fun range => byteRanges 64 range.1 range.2

/-- The different ends that lists of byte ranges have behind each of their starts, the whole of
them included. -/
def tails : Nat → List (List (Nat × Nat)) → List (List (List (Nat × Nat)))
  | 0, _ => []
  | depth + 1, lists =>
    if lists.all List.isEmpty then []
    else
      let starts := (lists.filterMap List.head?).eraseDups
      let inner := starts.flatMap fun start =>
        tails depth ((lists.filter fun list => list.head? == some start).map List.tail)
      lists :: inner

/-! ## Sizes -/

/-- The size of one state of the program. -/
def stateSize : Nat := 32

/-- The size of a branch to another state. -/
def branchSize : Nat := 4

/-- The size of a step over a range of bytes within a state. -/
def stepSize : Nat := 8

/-- The size of a class read forwards: states that share all equal ends. -/
def forwardSetSize (set : Unicode.CharSet) : Nat :=
  let states := (tails 5 (setBytes set)).eraseDups
  let sizes := states.map fun lists =>
    stateSize + stepSize * (lists.filterMap List.head?).eraseDups.length
  sizes.foldl (· + ·) stateSize

/-- The size of a class read backwards: a fork to every list, lists that share all equal starts. -/
def backwardSetSize (set : Unicode.CharSet) : Nat :=
  let lists := setBytes set
  let starts := (lists.flatMap fun list =>
    (List.range list.length).map fun n => list.take (n + 1)).eraseDups
  2 * stateSize + branchSize * lists.length + stateSize * starts.length

/-- The size of a set of characters. One character is a text of bytes; ASCII needs one state with a
step for each range. -/
def setSize (backward : Bool) (set : Unicode.CharSet) : Nat :=
  match set.only? with
  | some c => stateSize * (codeBytes c.toNat).length
  | none =>
    if set.isAscii then 2 * stateSize + stepSize * set.ranges.length
    else if backward then backwardSetSize set
    else forwardSetSize set

/-- The set of characters that a choice among sets comes down to. -/
def asSet? : Regex → Option Unicode.CharSet
  | .set characters => some characters
  | .alt first second =>
    first.asSet?.bind fun a => second.asSet?.map fun b => a.union b
  | _ => none

/-- The bytes of the only text that an expression matches, if it is made of characters alone. -/
def asText? : Regex → Option (List Nat)
  | .empty => some []
  | .set characters => characters.only?.map fun c => codeBytes c.toNat
  | .cat first second => first.asText?.bind fun a => second.asText?.map fun b => a ++ b
  | _ => none

/-- The texts of a choice among texts, none of which is empty. -/
def asTexts? : Regex → Option (List (List Nat))
  | .alt first second => first.asTexts?.bind fun a => second.asTexts?.map fun b => a ++ b
  | regex => (regex.asText?.filter (· ≠ [])).map ([·])

/-- The ways on from a node that lie between two marks, by their number: one state, and a branch to
it. -/
def waysSize : Nat → Nat
  | 0 => 0
  | 1 => stateSize + branchSize
  | ways => stateSize + branchSize + stepSize * ways

/-- The size of the ways on from a node, with a number of ways in front of them that no mark cuts
off. A node from which nothing goes on is the end of the whole tree. -/
def Trie.branchesSize : Nat → Trie → Nat
  | ways, .nothing => waysSize ways
  | ways, .stop earlier => waysSize ways + branchSize + earlier.branchesSize 0
  | ways, .branch _ below others =>
    (if below.isEnd then 0 else stateSize + below.branchesSize 0) + others.branchesSize (ways + 1)

/-- The size of a node and of all below it. -/
def Trie.size (trie : Trie) : Nat :=
  if trie.isEnd then 0 else stateSize + trie.branchesSize 0

/-- The size of a choice among texts. -/
def textsSize (backward : Bool) (texts : List (List Nat)) : Nat :=
  (Trie.ofTexts (if backward then texts.map List.reverse else texts)).size + stateSize

/-- A repetition around a body of a given size. -/
def timesSize (body least : Nat) (most : Option Nat) (consumes : Bool) : Nat :=
  let fork := stateSize + 2 * branchSize
  match most with
  | some most =>
    if least = 0 ∧ most = 1 then fork + stateSize + body
    else if least = most then if least = 0 then stateSize else least * body
    else
      (if least = 0 then stateSize else least * body) + stateSize
        + (most - least) * (fork + body)
  | none =>
    if least = 0 then if consumes then fork + body else 2 * fork + stateSize + body
    else least * body + fork

/-- The size of an expression as a part of a program. A choice among sets is one set, and one among
texts is a tree. The branches of a choice within a choice are branches of the outer one, each with a
way from the fork. A group is marked at both ends of a program that reads forwards. -/
def size (backward inChoice : Bool) (regex : Regex) : Nat :=
  let branch := if inChoice then branchSize else 0
  match regex with
  | .empty | .look _ => stateSize + branch
  | .set characters => setSize backward characters + branch
  | .cat first second => first.size backward false + second.size backward false + branch
  | .alt first second =>
    let branches := first.size backward true + second.size backward true
    if inChoice then branches
    else
      match asSet? (.alt first second), asTexts? (.alt first second) with
      | some characters, _ => setSize backward characters
      | none, some texts => textsSize backward texts
      | none, none => branches + 2 * stateSize
  | .capture body =>
    body.size backward false + (if backward then 0 else 2 * stateSize) + branch
  | .times body least most _ =>
    timesSize (body.size backward false) least most body.consumes + branch

/-- The size of a whole program: the expression, a search for its start, a mark of success, and
marks of the whole match in a program that reads forwards. -/
def programSize (backward : Bool) (regex : Regex) : Nat :=
  regex.size backward false + (if backward then 4 else 6) * stateSize + 2 * stepSize

/-- The greatest size of a program. -/
def sizeLimit : Nat := 10 * 0x100000

/-- The number of texts from which on a choice among them is searched for without a program. -/
def manyTexts : Nat := 3000

/-- The expression is a choice among many texts and nothing else. -/
def needsNoProgram (regex : Regex) : Bool :=
  regex.asSet?.isNone && regex.asTexts?.any fun texts => manyTexts ≤ texts.length

/-- An expression has no program, or both of its programs are small enough. -/
def fits (regex : Regex) : Bool :=
  regex.needsNoProgram
    || (regex.programSize false ≤ sizeLimit && regex.programSize true ≤ sizeLimit)

end AppBoundary.Regex
