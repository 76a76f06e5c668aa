-- Sets of characters as ranges of codes, in ascending order and apart from one
-- another.
import AppBoundary.Text.Numeral

namespace AppBoundary.Unicode

/-! ## Sets -/

/-- A set of characters: the codes from the first to the second number of each range. The ranges
ascend and neither overlap nor touch. -/
structure CharSet where
  ranges : List (Nat × Nat)
deriving DecidableEq

namespace CharSet

/-- The last code of all. -/
def maxCode : Nat := 0x10FFFF

/-- A range before the given code ends the search, for the ranges ascend. -/
def holdsCode (code : Nat) : List (Nat × Nat) → Bool
  | [] => false
  | (first, last) :: rest =>
    if code < first then false else if code ≤ last then true else holdsCode code rest

/-- The code belongs to the set. -/
def containsCode (set : CharSet) (code : Nat) : Bool :=
  holdsCode code set.ranges

/-- The character belongs to the set. -/
def contains (set : CharSet) (c : Char) : Bool :=
  set.containsCode c.toNat

def empty : CharSet := ⟨[]⟩

def all : CharSet := ⟨[(0, maxCode)]⟩

/-- The set of one character. -/
def single (c : Char) : CharSet := ⟨[(c.toNat, c.toNat)]⟩

theorem contains_single (c d : Char) : (single c).contains d = true ↔ d = c := by
  simp only [contains, single, containsCode, holdsCode]
  constructor
  · intro h
    have hn : d.toNat = c.toNat := by
      split at h
      · simp at h
      · split at h
        · omega
        · simp at h
    exact Char.ext (UInt32.toNat_inj.1 hn)
  · rintro rfl
    simp

/-! ## Ranges in order -/

/-- Ranges that ascend by their first codes, with those that overlap or touch made one. -/
def mergeRanges : List (Nat × Nat) → List (Nat × Nat)
  | [] => []
  | range :: rest => go range rest
where
  go (current : Nat × Nat) : List (Nat × Nat) → List (Nat × Nat)
    | [] => [current]
    | range :: rest =>
      if range.1 ≤ current.2 + 1 then go (current.1, max current.2 range.2) rest
      else current :: go range rest

/-- The set of all codes in a list of ranges. -/
def ofRanges (ranges : List (Nat × Nat)) : CharSet :=
  ⟨mergeRanges (ranges.mergeSort fun a b => a.1 ≤ b.1)⟩

/-- The ranges between ascending ranges, from the code `start` to the last one. -/
def gaps (start : Nat) : List (Nat × Nat) → List (Nat × Nat)
  | [] => if start ≤ maxCode then [(start, maxCode)] else []
  | (first, last) :: rest =>
    if start < first then (start, first - 1) :: gaps (last + 1) rest else gaps (last + 1) rest

/-! ## Operations -/

/-- The characters outside a set. -/
def complement (set : CharSet) : CharSet :=
  ⟨gaps 0 (ofRanges ((0xD800, 0xDFFF) :: set.ranges)).ranges⟩

def union (a b : CharSet) : CharSet :=
  ofRanges (a.ranges ++ b.ranges)

def inter (a b : CharSet) : CharSet :=
  (a.complement.union b.complement).complement

def diff (a b : CharSet) : CharSet :=
  a.inter b.complement

/-- The characters in exactly one of two sets. -/
def symmDiff (a b : CharSet) : CharSet :=
  (a.union b).diff (a.inter b)

/-- Every character of the set is an ASCII one. -/
def isAscii (set : CharSet) : Bool :=
  set.ranges.all fun range => range.2 < 0x80

/-- The only character of a set. -/
def only? (set : CharSet) : Option Char :=
  match set.ranges with
  | [(first, last)] => if first = last then some (Char.ofNat first) else none
  | _ => none

end CharSet

/-! ## Ranges as text -/

/-- The ranges of one item: a code, two codes joined by a hyphen, or two codes joined by a slash for
every second code between them. Codes are hexadecimal. -/
def parseRange (item : List Char) : List (Nat × Nat) :=
  let code := fun cs => Text.ofDigits 16 (cs.filterMap Text.hexDigit?)
  let first := code (item.takeWhile fun c => c != '-' && c != '/')
  match item.dropWhile fun c => c != '-' && c != '/' with
  | '-' :: rest => [(first, code rest)]
  | _ :: rest =>
    (List.range ((code rest - first) / 2 + 1)).map fun i => (first + 2 * i, first + 2 * i)
  | [] => [(first, first)]

/-- The ranges of a text of items, which blanks and line feeds keep apart. -/
def parseRanges (text : String) : List (Nat × Nat) :=
  ((text.toList.splitBy fun a b => a != ' ' && a != '\n' && b != ' ' && b != '\n').filter
    fun item => item != [' '] && item != ['\n']).flatMap parseRange

end AppBoundary.Unicode
