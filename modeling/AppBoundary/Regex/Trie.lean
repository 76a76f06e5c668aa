-- Texts in a tree that shares their common beginnings: what a choice among
-- texts becomes in a program, in place of one branch for each text.

namespace AppBoundary.Regex

/-- The ways on from a node of the tree: a byte with the node behind it and other ways, or a mark that
a text ends at the node, with the ways from before that text. Texts share the way of a byte unless a
mark lies between them, since an earlier text is preferred to a later one. -/
inductive Trie
  | nothing
  | stop (earlier : Trie)
  | branch (byte : Nat) (below others : Trie)

namespace Trie

/-- The tree of one text. -/
def ofText : List Nat → Trie
  | [] => .stop .nothing
  | byte :: rest => .branch byte (ofText rest) .nothing

/-- The tree with one more text. A second end where nothing goes on adds nothing. -/
def add : Trie → List Nat → Trie
  | .nothing, text => ofText text
  | .stop .nothing, [] => .stop .nothing
  | .stop earlier, [] => .stop (.stop earlier)
  | .stop earlier, byte :: rest => .branch byte (ofText rest) (.stop earlier)
  | .branch byte below others, [] => .stop (.branch byte below others)
  | .branch byte below others, first :: rest =>
    if first = byte then .branch byte (below.add rest) others
    else .branch byte below (others.add (first :: rest))

/-- The tree of a list of texts. -/
def ofTexts (texts : List (List Nat)) : Trie :=
  texts.foldl add .nothing

/-- Nothing goes on from the node. -/
def isEnd : Trie → Bool
  | .nothing | .stop .nothing => true
  | _ => false

example : ofTexts [[1, 2], [1, 3], [1], [1, 2]] =
    .branch 1 (.branch 2 (.stop .nothing)
      (.stop (.branch 2 (.stop .nothing) (.branch 3 (.stop .nothing) .nothing)))) .nothing := rfl

end Trie

end AppBoundary.Regex
