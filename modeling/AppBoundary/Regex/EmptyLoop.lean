-- Repetitions whose body may match nothing. A search in order of preference
-- goes round the body and leaves it; a fork that was seen at a place before
-- leads nowhere new, so the search turns back there.
import AppBoundary.Regex.Ends

namespace AppBoundary.Regex

/-! ## Strands -/

/-- An expression with its repetitions written out and its forks numbered. -/
inductive Strand
  | empty
  | set (characters : Unicode.CharSet)
  | look (condition : Look)
  | cat (first second : Strand)
  /-- A fork: either of two, the first preferred. -/
  | fork (number : Nat) (first second : Strand)
  /-- A fork behind a body: once more through the body, or on. -/
  | again (number : Nat) (greedy : Bool) (body : Strand)

/-- The number of parts of a strand. -/
def Strand.size : Strand → Nat
  | .empty | .set _ | .look _ => 1
  | .cat first second | .fork _ first second => first.size + second.size + 1
  | .again _ _ body => body.size + 1

/-- A strand, or the empty text: the strand first if greedy. -/
def Strand.optional (number : Nat) (greedy : Bool) (strand : Strand) : Strand :=
  if greedy then .fork number strand .empty else .fork number .empty strand

/-- Copies of a strand, one after the other. Each `build` starts at a number and gives the next
free one. -/
def Strand.copies (build : Nat → Strand × Nat) : Nat → Nat → Strand × Nat
  | 0, next => (.empty, next)
  | n + 1, next =>
    let (first, next) := build next
    let (rest, next) := copies build n next
    (.cat first rest, next)

/-- Up to a number of copies, each one within the option before it. -/
def Strand.options (build : Nat → Strand × Nat) (greedy : Bool) : Nat → Nat → Strand × Nat
  | 0, next => (.empty, next)
  | n + 1, next =>
    let (first, inner) := build (next + 1)
    let (rest, free) := options build greedy n inner
    (.optional next greedy (.cat first rest), free)

/-- One run through the body and any number of further ones. -/
def Strand.rounds (build : Nat → Strand × Nat) (greedy : Bool) (next : Nat) : Strand × Nat :=
  let (body, free) := build (next + 1)
  (.cat body (.again next greedy body), free)

/-- The strand of an expression, with numbers from `next` on, and the next free number. -/
def Strand.ofRegex : Regex → Nat → Strand × Nat
  | .empty, next => (.empty, next)
  | .set characters, next => (.set characters, next)
  | .look condition, next => (.look condition, next)
  | .cat first second, next =>
    let (first, next) := ofRegex first next
    let (second, next) := ofRegex second next
    (.cat first second, next)
  | .alt first second, next =>
    let (first, inner) := ofRegex first (next + 1)
    let (second, free) := ofRegex second inner
    (.fork next first second, free)
  | .capture body, next => ofRegex body next
  | .times body least (some most) greedy, next =>
    let (fixed, inner) := copies (ofRegex body) least next
    let (open_, free) := options (ofRegex body) greedy (most - least) inner
    (.cat fixed open_, free)
  | .times body 0 none greedy, next =>
    if body.consumes then
      let (strand, free) := ofRegex body (next + 1)
      (.again next greedy strand, free)
    else
      let (strand, free) := rounds (ofRegex body) greedy (next + 1)
      (.optional next greedy strand, free)
  | .times body (least + 1) none greedy, next =>
    let (fixed, inner) := copies (ofRegex body) least next
    let (strand, free) := rounds (ofRegex body) greedy inner
    (.cat fixed strand, free)

/-! ## The search -/

/-- A way to go on: the strands still to be matched and the place reached. -/
structure Trail where
  strands : List Strand
  place : Nat

/-- The first step along a trail: a place where it ends, or the trails that continue it, preferred
ones first. A fork marks its number at its place and leads nowhere when it is marked. -/
def Trail.step (text : Array Char) (seen : Array Bool) (trail : Trail) :
    Option Nat × List Trail × Array Bool :=
  let place := trail.place
  match trail.strands with
  | [] => (some place, [], seen)
  | .empty :: rest => (none, [⟨rest, place⟩], seen)
  | .set characters :: rest =>
    (none, if text[place]?.any characters.contains then [⟨rest, place + 1⟩] else [], seen)
  | .look condition :: rest =>
    let holds := condition.holds (if place = 0 then none else text[place - 1]?) text[place]?
    (none, if holds then [⟨rest, place⟩] else [], seen)
  | .cat first second :: rest => (none, [⟨first :: second :: rest, place⟩], seen)
  | .fork number first second :: rest =>
    let mark := number * (text.size + 1) + place
    if seen[mark]?.getD true then (none, [], seen)
    else (none, [⟨first :: rest, place⟩, ⟨second :: rest, place⟩], seen.setIfInBounds mark true)
  | .again number greedy body :: rest =>
    let mark := number * (text.size + 1) + place
    if seen[mark]?.getD true then (none, [], seen)
    else
      let round : Trail := ⟨body :: .again number greedy body :: rest, place⟩
      let leave : Trail := ⟨rest, place⟩
      (none, if greedy then [round, leave] else [leave, round], seen.setIfInBounds mark true)

/-- The places where trails end, preferred ones first, within a number of steps. -/
def searchTrails (text : Array Char) : Nat → Array Bool → List Trail → List Nat → List Nat
  | 0, _, _, found => found.reverse
  | _ + 1, _, [], found => found.reverse
  | steps + 1, seen, trail :: rest, found =>
    let (ending, more, seen) := trail.step text seen
    searchTrails text steps seen (more ++ rest) (ending.toList ++ found)

/-- The ends of at least one run through a body that may match nothing. Every mark is set once and
lets two trails go on, and a trail passes no more than two strands' parts before its next mark, which
bounds the number of steps. -/
def emptyLoopTable (text : Array Char) (body : Regex) (greedy : Bool) : EndTable :=
  let (strand, free) := Strand.rounds (Strand.ofRegex body) greedy 0
  let marks := free * (text.size + 1)
  let steps := (2 * marks + 1) * (2 * strand.size + 2)
  .build text.size fun place =>
    EndTable.distinct text.size
      (searchTrails text steps (Array.replicate marks false) [⟨[strand], place⟩] [])

end AppBoundary.Regex
