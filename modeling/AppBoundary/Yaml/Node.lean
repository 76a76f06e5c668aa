-- The nodes of a YAML document, and the references between them.

namespace AppBoundary.Yaml

/-! ## Nodes -/

/-- A node. Anchors and references to them are of a type `Ref`: names, as long as a document is being
read, and numbers, once it is known what they refer to. -/
inductive Node (Ref : Type) where
  | reference (target : Ref)
  | scalar (anchor : Option Ref) (tag : Option (List Char)) (isPlain : Bool) (text : List Char)
  | sequence (anchor : Option Ref) (items : List (Node Ref))
  /-- The keys and their values in turn. -/
  | mapping (anchor : Option Ref) (parts : List (Node Ref))

/-- The node where nothing is written. -/
def Node.blank {Ref : Type} (anchor : Option Ref) (tag : Option (List Char)) : Node Ref :=
  .scalar anchor tag true []

/-- The keys of a mapping with their values. -/
def pairs {α : Type} : List α → List (α × α)
  | key :: value :: rest => (key, value) :: pairs rest
  | _ => []

/-! ## Numbers for anchors -/

/-- The names of anchors that have been met, with their numbers. -/
abbrev AnchorNames :=
  List (List Char × Nat)

/-- One more anchor: its number is that of the names known so far. -/
def AnchorNames.add (names : AnchorNames) (name : List Char) : AnchorNames × Nat :=
  let number := names.length
  ((name, number) :: names.filter (·.1 ≠ name), number)

/-- An anchor that may be missing. -/
def AnchorNames.add? (names : AnchorNames) : Option (List Char) → AnchorNames × Option Nat
  | none => (names, none)
  | some name =>
    let (names, number) := names.add name
    (names, some number)

mutual

/-- A node with numbers in place of names. A reference needs an anchor before it. -/
def Node.number (names : AnchorNames) : Node (List Char) → Option (Node Nat × AnchorNames)
  | .reference name => (names.lookup name).map fun number => (.reference number, names)
  | .scalar anchor tag isPlain text =>
    let (names, anchor) := names.add? anchor
    some (.scalar anchor tag isPlain text, names)
  | .sequence anchor items => do
    let (names, anchor) := names.add? anchor
    let (items, names) ← Node.numberAll names items
    return (.sequence anchor items, names)
  | .mapping anchor parts => do
    let (names, anchor) := names.add? anchor
    let (parts, names) ← Node.numberAll names parts
    return (.mapping anchor parts, names)

/-- The same for several nodes, one after the other. -/
def Node.numberAll (names : AnchorNames) :
    List (Node (List Char)) → Option (List (Node Nat) × AnchorNames)
  | [] => some ([], names)
  | node :: nodes => do
    let (node, names) ← Node.number names node
    let (nodes, names) ← Node.numberAll names nodes
    return (node :: nodes, names)

end

/-! ## What references refer to -/

/-- The number of a node's own anchor. -/
def Node.anchor? {Ref : Type} : Node Ref → Option Ref
  | .reference _ => none
  | .scalar anchor _ _ _ | .sequence anchor _ | .mapping anchor _ => anchor

/-- A node under its own anchor. -/
def Node.own (node : Node Nat) : List (Nat × Node Nat) :=
  match node.anchor? with
  | some number => [(number, node)]
  | none => []

mutual

/-- The anchored nodes of a node, in the order in which they begin. -/
def Node.anchored : Node Nat → List (Nat × Node Nat)
  | .reference _ => []
  | .scalar anchor tag isPlain text => (Node.scalar anchor tag isPlain text).own
  | .sequence anchor items => (Node.sequence anchor items).own ++ Node.anchoredAll items
  | .mapping anchor parts => (Node.mapping anchor parts).own ++ Node.anchoredAll parts

/-- The same for several nodes. -/
def Node.anchoredAll : List (Node Nat) → List (Nat × Node Nat)
  | [] => []
  | node :: nodes => node.anchored ++ Node.anchoredAll nodes

end

/-! ## Documents -/

/-- A document: its root, and the nodes that references refer to. Of two nodes of one number, the
later one counts. -/
structure Document where
  root : Node Nat
  targets : List (Nat × Node Nat)

/-- The document of a node, if every reference in it has an anchor before it. -/
def Document.ofNode (node : Node (List Char)) : Option Document := do
  let (root, _) ← Node.number [] node
  return ⟨root, root.anchored.reverse⟩

/-- A node, or the one that it refers to. -/
def Document.follow (document : Document) (node : Node Nat) : Node Nat :=
  match node with
  | .reference number => (document.targets.lookup number).getD node
  | _ => node

end AppBoundary.Yaml
