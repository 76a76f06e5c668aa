-- The items of a TOML document, and the rules on who may add to a table.

namespace AppBoundary.Toml

/-! ## Items -/

/-- How a table came to be. -/
inductive Origin
  /-- It has a header of its own. -/
  | header
  /-- Only headers below it name it. -/
  | implied
  /-- A dotted key named it. -/
  | dotted
  /-- It stands between braces. -/
  | braces
deriving DecidableEq

/-- An item. No setting is a number, a boolean or a moment, so nothing is kept of those. -/
inductive Item
  | text (chars : List Char)
  | other
  | list (items : List Item)
  | table (origin : Origin) (entries : List (String × Item))
  /-- The tables of a header in double brackets. -/
  | rows (tables : List (List (String × Item)))

/-- The entries of a table. -/
abbrev Entries :=
  List (String × Item)

namespace Entries

/-! ## Changes -/

/-- The entries with another item under a key that is there. -/
def replace (entries : Entries) (key : String) (item : Item) : Entries :=
  entries.map fun entry => if entry.1 = key then (key, item) else entry

/-- A path may lead through a table. A dotted key does not lead through a table with a header of its
own, and nothing leads into one between braces. -/
def isOpen (dotted : Bool) (origin : Origin) : Bool :=
  origin ≠ .braces && !(dotted && origin = .header)

/-- The entries with a table in them changed, at the end of a path. Tables on the path that are missing
are made. The path goes through the last of several rows. -/
def alterAt (dotted : Bool) (change : Origin → Entries → Option Entries) :
    List String → Origin → Entries → Option Entries
  | [], origin, entries => change origin entries
  | key :: path, _, entries =>
    match entries.lookup key with
    | none => do
      let made := if dotted then .dotted else .implied
      let inner ← alterAt dotted change path made []
      return entries ++ [(key, .table made inner)]
    | some (.table origin inner) => do
      if !isOpen dotted origin then none
      return entries.replace key (.table origin (← alterAt dotted change path origin inner))
    | some (.rows tables) => do
      let last ← alterAt dotted change path .header (← tables.getLast?)
      return entries.replace key (.rows (tables.dropLast ++ [last]))
    | some _ => none

/-- One more entry under a dotted key, which must be new. The table that it goes into was made by a
dotted key too, if the key has several parts. -/
def insert (entries : Entries) (path : List String) (key : String) (item : Item) : Option Entries :=
  alterAt true
    (fun origin inner =>
      if (!path.isEmpty && origin ≠ .dotted) || (inner.lookup key).isSome then none
      else some (inner ++ [(key, item)]))
    path .header entries

/-! ## Headers -/

/-- The entries with a table for a header. It may have been implied before. -/
def openTable (entries : Entries) (path : List String) (key : String) : Option Entries :=
  alterAt false
    (fun _ inner =>
      match inner.lookup key with
      | none => some (inner ++ [(key, .table .header [])])
      | some (.table .implied kept) => some (inner.replace key (.table .header kept))
      | some _ => none)
    path .header entries

/-- The entries with one more row for a header in double brackets. -/
def openRow (entries : Entries) (path : List String) (key : String) : Option Entries :=
  alterAt false
    (fun _ inner =>
      match inner.lookup key with
      | none => some (inner ++ [(key, .rows [[]])])
      | some (.rows tables) => some (inner.replace key (.rows (tables ++ [[]])))
      | some _ => none)
    path .header entries

/-- One more entry in the table that was opened last. -/
def insertUnder (entries : Entries) (header path : List String) (key : String) (item : Item) :
    Option Entries :=
  alterAt false (fun _ inner => inner.insert path key item) header .header entries

end Entries

end AppBoundary.Toml
