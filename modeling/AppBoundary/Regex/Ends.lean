-- Where the matches of a regular expression end: for every place of a text,
-- the ends of the matches that begin there, preferred ones first and each end
-- once. Only repetitions of bodies that consume are treated here; the others
-- are left to a function given from outside.
import AppBoundary.Regex.Basic

namespace AppBoundary.Regex

/-! ## Tables -/

/-- The ends of the matches from each place `0 … length`, preferred ones first. -/
structure EndTable where
  ends : Array (List Nat)
deriving DecidableEq

namespace EndTable

/-- The ends from one place. -/
def endsFrom (table : EndTable) (place : Nat) : List Nat :=
  table.ends[place]?.getD []

/-- The table of the places up to `length` that a function describes. -/
def build (length : Nat) (f : Nat → List Nat) : EndTable :=
  ⟨((List.range (length + 1)).map f).toArray⟩

theorem endsFrom_build {length place : Nat} (f : Nat → List Nat) (h : place ≤ length) :
    (build length f).endsFrom place = f place := by
  simp [build, endsFrom, Nat.lt_succ_of_le h]

/-- One end added to the ends seen so far, latest first. -/
def addEnd (state : Array Bool × List Nat) (place : Nat) : Array Bool × List Nat :=
  if state.1[place]?.getD true then state
  else (state.1.setIfInBounds place true, place :: state.2)

/-- The first occurrences of the places in a list, none beyond `length`. -/
def distinct (length : Nat) (places : List Nat) : List Nat :=
  (places.foldl addEnd (Array.replicate (length + 1) false, [])).2.reverse

/-! ## Parts put together -/

/-- The empty text. -/
def still (length : Nat) : EndTable :=
  build length fun place => [place]

/-- A match of the first, then one of the second. -/
def cat (length : Nat) (first second : EndTable) : EndTable :=
  build length fun place => distinct length ((first.endsFrom place).flatMap second.endsFrom)

/-- A match of either, the first preferred. -/
def alt (length : Nat) (first second : EndTable) : EndTable :=
  build length fun place => distinct length (first.endsFrom place ++ second.endsFrom place)

/-- A match of the table or the empty text, the match preferred if greedy. -/
def orStill (length : Nat) (greedy : Bool) (table : EndTable) : EndTable :=
  if greedy then alt length table (still length) else alt length (still length) table

/-- A function applied a number of times, or until it changes nothing. -/
def iterate (f : EndTable → EndTable) : Nat → EndTable → EndTable
  | 0, table => table
  | n + 1, table =>
    let next := f table
    if next = table then table else iterate f n next

/-- Exactly `n` matches, one after the other. -/
def power (length : Nat) (body : EndTable) (n : Nat) : EndTable :=
  iterate (fun table => cat length table body) n (still length)

/-- At most `n` matches, one after the other. -/
def upTo (length : Nat) (greedy : Bool) (body : EndTable) (n : Nat) : EndTable :=
  iterate (fun table => orStill length greedy (cat length body table)) n (still length)

/-- The ends of any number of matches, one after the other, from each of the last `count` places.
Every match of the body takes a character, so the ends from later places are known. -/
def anyFrom (length : Nat) (greedy : Bool) (body : EndTable) : Nat → List (List Nat)
  | 0 => []
  | count + 1 =>
    let later := anyFrom length greedy body count
    let place := length - count
    let around := (body.endsFrom place).flatMap fun next => later[next - place - 1]?.getD []
    distinct length (if greedy then around ++ [place] else place :: around) :: later

/-- Any number of matches, one after the other. -/
def anyNumber (length : Nat) (greedy : Bool) (body : EndTable) : EndTable :=
  ⟨(anyFrom length greedy body (length + 1)).toArray⟩

end EndTable

/-! ## The table of an expression -/

/-- The ends of the matches of an expression in a text. The ends of an unbounded repetition of a
body that may match nothing come from `around`: at least one time through the body. -/
def endTable (text : Array Char) (around : Regex → Bool → EndTable) : Regex → EndTable
  | .empty => .still text.size
  | .set characters =>
    .build text.size fun place =>
      if text[place]?.any characters.contains then [place + 1] else []
  | .look condition =>
    .build text.size fun place =>
      if condition.holds (if place = 0 then none else text[place - 1]?) text[place]? then [place]
      else []
  | .cat first second =>
    .cat text.size (endTable text around first) (endTable text around second)
  | .alt first second =>
    .alt text.size (endTable text around first) (endTable text around second)
  | .capture body => endTable text around body
  | .times body least (some most) greedy =>
    let table := endTable text around body
    .cat text.size (.power text.size table least)
      (.upTo text.size greedy table (most - least))
  | .times body least none greedy =>
    let table := endTable text around body
    if body.consumes then
      .cat text.size (.power text.size table least) (.anyNumber text.size greedy table)
    else if least = 0 then .orStill text.size greedy (around body greedy)
    else .cat text.size (.power text.size table (least - 1)) (around body greedy)

end AppBoundary.Regex
