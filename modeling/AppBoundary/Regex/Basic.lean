-- Regular expressions: sets of characters and conditions on places, put
-- together by sequence, preference and repetition.
import AppBoundary.Regex.Look

namespace AppBoundary

/-- A regular expression. -/
inductive Regex
  /-- The empty text. -/
  | empty
  /-- One character of a set. -/
  | set (characters : Unicode.CharSet)
  /-- The empty text at a place where a condition holds. -/
  | look (condition : Regex.Look)
  | cat (first second : Regex)
  /-- Either of two, the first one preferred. -/
  | alt (first second : Regex)
  /-- A group that a match would report. -/
  | capture (body : Regex)
  /-- A body `least` times and up to `most` times, without an upper bound when `most` is absent.
  A greedy one prefers more times. -/
  | times (body : Regex) (least : Nat) (most : Option Nat) (greedy : Bool)
deriving DecidableEq

namespace Regex

/-! ## Building -/

/-- One given character. -/
def char (c : Char) : Regex :=
  .set (.single c)

/-- Any character but a line feed. -/
def dot : Regex :=
  .set ⟨[(0, 9), (11, Unicode.CharSet.maxCode)]⟩

/-- The parts of a list, one after the other. -/
def sequence : List Regex → Regex
  | [] => .empty
  | [part] => part
  | part :: rest => .cat part (sequence rest)

/-- Any part of a list, earlier ones preferred. -/
def choice : List Regex → Regex
  | [] => .set .empty
  | [part] => part
  | part :: rest => .alt part (choice rest)

/-! ## What a match takes -/

/-- Every match takes at least one character. -/
def consumes : Regex → Bool
  | .empty | .look _ => false
  | .set _ => true
  | .cat first second => first.consumes || second.consumes
  | .alt first second => first.consumes && second.consumes
  | .capture body => body.consumes
  | .times body least _ _ => least != 0 && body.consumes

/-- No match takes a character. -/
def takesNothing : Regex → Bool
  | .empty | .look _ => true
  | .set _ => false
  | .cat first second => first.takesNothing && second.takesNothing
  | .alt first second => first.takesNothing && second.takesNothing
  | .capture body => body.takesNothing
  | .times body _ most _ => most == some 0 || body.takesNothing

/-- A repetition. A body that takes nothing is asked at most once, a body that may not be there is
the empty text, and a body that stands once is itself. -/
def repeated (body : Regex) (least : Nat) (most : Option Nat) (greedy : Bool) : Regex :=
  let (least, most) :=
    if body.takesNothing then (min least 1, some (min (most.getD 1) 1)) else (least, most)
  if least = 0 ∧ most = some 0 then .empty
  else if least = 1 ∧ most = some 1 then body
  else .times body least most greedy

end Regex

end AppBoundary
