-- What stands between the parts of a TOML document: blanks, breaks and
-- comments.

namespace AppBoundary.Toml

/-- Blanks inside a line. -/
def isBlank (c : Char) : Bool :=
  c == ' ' || c == '\t'

/-- Characters that may stand in comments and texts: everything but control characters. -/
def isPrintable (c : Char) : Bool :=
  c == '\t' || (0x20 ≤ c.toNat && c.toNat ≠ 0x7f)

/-- The text behind the blanks. -/
def skipBlanks (cs : List Char) : List Char :=
  cs.dropWhile isBlank

/-- The text behind blanks, breaks and comments. -/
def skipLines : Bool → List Char → List Char
  | _, '\n' :: rest => skipLines false rest
  | _, '\r' :: '\n' :: rest => skipLines false rest
  | inComment, c :: rest =>
    if isBlank c || (inComment && isPrintable c) then skipLines inComment rest
    else if c = '#' then skipLines true rest
    else c :: rest
  | _, [] => []

/-- The text behind a break. -/
def takeBreak? : List Char → Option (List Char)
  | '\n' :: rest => some rest
  | '\r' :: '\n' :: rest => some rest
  | _ => none

/-- The next line, if only blanks and a comment are left in this one. -/
def finishLine? (cs : List Char) : Option (List Char) :=
  let cs :=
    match skipBlanks cs with
    | '#' :: rest => rest.dropWhile isPrintable
    | rest => rest
  if cs.isEmpty then some [] else takeBreak? cs

end AppBoundary.Toml
