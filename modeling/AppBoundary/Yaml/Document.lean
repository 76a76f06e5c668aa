-- Documents read from the tokens of a YAML text. Structure comes from the
-- tokens alone.
import AppBoundary.Yaml.Node
import AppBoundary.Yaml.Token

namespace AppBoundary.Yaml

/-! ## Handles -/

/-- The handles of tags and the beginnings that they stand for. -/
abbrev Handles :=
  List (List Char × List Char)

/-- The handles that every document has, unless it gives them another meaning. -/
def commonHandles : Handles :=
  [(['!'], ['!']), (['!', '!'], "tag:yaml.org,2002:".toList)]

/-- The directives before a document, and the handles that they define. At most one tells the version,
which must be 1.1 or 1.2, and no handle is defined twice. -/
def readDirectives (versioned : Bool) (handles : Handles) : List Token → Option (Handles × List Token)
  | .directive (.version major minor) :: rest =>
    if versioned || major ≠ 1 || !(minor = 1 || minor = 2) then none
    else readDirectives true handles rest
  | .directive (.handle name stem) :: rest =>
    if (handles.lookup name).isSome then none
    else readDirectives versioned ((name, stem) :: handles) rest
  | tokens => some (handles, tokens)

/-! ## Properties -/

/-- What may stand before the content of a node. -/
structure Properties where
  anchor : Option (List Char)
  tag : Option (List Char)

/-- A tag with its handle spelled out. -/
def resolveTag (handles : Handles) (tag : Tag) : Option (List Char) :=
  if tag.handle.isEmpty then some tag.ending
  else (handles.lookup tag.handle).map (· ++ tag.ending)

/-- An anchor and a tag, in either order. -/
def readProperties (handles : Handles) : List Token → Option (Properties × List Token)
  | .anchor name :: .tag tag :: rest | .tag tag :: .anchor name :: rest =>
    (resolveTag handles tag).map fun tag => (⟨some name, some tag⟩, rest)
  | .anchor name :: rest => some (⟨some name, none⟩, rest)
  | .tag tag :: rest => (resolveTag handles tag).map fun tag => (⟨none, some tag⟩, rest)
  | tokens => some (⟨none, none⟩, tokens)

/-- The tag of a scalar that is written. A lone exclamation mark is none. -/
def Properties.scalarTag (properties : Properties) : Option (List Char) :=
  if properties.tag = some ['!'] then none else properties.tag

/-! ## Collections and nodes -/

/-- A name in place of an anchor. -/
abbrev NamedNode :=
  Node (List Char)

/-- Nothing stands before this token in an indented mapping. -/
def endsBlockPart : List Token → Bool
  | .key :: _ | .value :: _ | .blockEnd :: _ => true
  | _ => false

/-- Nothing stands before this token in an indented sequence. -/
def endsBlockItem : List Token → Bool
  | .entry :: _ | .blockEnd :: _ => true
  | _ => false

/-- Nothing stands before this token in a mapping between braces. -/
def endsFlowPart : List Token → Bool
  | .comma :: _ | .closeBrace :: _ => true
  | _ => false

/-- Nothing stands before this token in a pair between brackets. -/
def endsFlowItem : List Token → Bool
  | .comma :: _ | .closeBracket :: _ => true
  | _ => false

/-- The tokens behind a comma, which is not wanted before the first part. -/
def afterComma (first : Bool) : List Token → Option (List Token)
  | .comma :: rest => if first then some (.comma :: rest) else some rest
  | tokens => if first then some tokens else none

mutual

/-- A node. Indented collections are read where `block` is set, and a sequence that is indented no
deeper than its key where `sameIndent` is set. -/
def readNode (handles : Handles) :
    Nat → Bool → Bool → List Token → Option (NamedNode × List Token)
  | 0, _, _, _ => none
  | _ + 1, _, _, .reference name :: rest => some (.reference name, rest)
  | room + 1, block, sameIndent, tokens => do
    let (properties, tokens) ← readProperties handles tokens
    let anchor := properties.anchor
    let absent :=
      if anchor.isSome || properties.tag.isSome then some (.blank anchor properties.tag, tokens)
      else none
    match tokens with
    | .entry :: _ =>
      if sameIndent then
        let (items, rest) ← readFlatSequence handles room tokens
        return (.sequence anchor items, rest)
      else absent
    | .scalar isPlain text :: rest =>
      return (.scalar anchor properties.scalarTag isPlain text, rest)
    | .openBracket :: rest =>
      let (items, rest) ← readBrackets handles room true rest
      return (.sequence anchor items, rest)
    | .openBrace :: rest =>
      let (parts, rest) ← readBraces handles room true rest
      return (.mapping anchor parts, rest)
    | .sequenceStart :: rest =>
      if block then
        let (items, rest) ← readSequence handles room rest
        return (.sequence anchor items, rest)
      else absent
    | .mappingStart :: rest =>
      if block then
        let (parts, rest) ← readMapping handles room rest
        return (.mapping anchor parts, rest)
      else absent
    | _ => absent

/-- The items of an indented sequence. -/
def readSequence (handles : Handles) : Nat → List Token → Option (List NamedNode × List Token)
  | room + 1, .entry :: rest => do
    let (item, rest) ←
      if endsBlockItem rest then some (.blank none none, rest)
      else readNode handles room true false rest
    let (items, rest) ← readSequence handles room rest
    return (item :: items, rest)
  | _ + 1, .blockEnd :: rest => some ([], rest)
  | _, _ => none

/-- The items of a sequence that is indented no deeper than its key. -/
def readFlatSequence (handles : Handles) : Nat → List Token → Option (List NamedNode × List Token)
  | room + 1, .entry :: rest => do
    let (item, rest) ←
      if endsBlockItem rest || endsBlockPart rest then some (.blank none none, rest)
      else readNode handles room true false rest
    let (items, rest) ← readFlatSequence handles room rest
    return (item :: items, rest)
  | _ + 1, tokens => some ([], tokens)
  | 0, _ => none

/-- The keys and values of an indented mapping. -/
def readMapping (handles : Handles) : Nat → List Token → Option (List NamedNode × List Token)
  | room + 1, .key :: rest => do
    let (key, rest) ←
      if endsBlockPart rest then some (.blank none none, rest)
      else readNode handles room true true rest
    let (value, rest) ←
      match rest with
      | .value :: rest =>
        if endsBlockPart rest then some (.blank none none, rest)
        else readNode handles room true true rest
      | _ => some (.blank none none, rest)
    let (parts, rest) ← readMapping handles room rest
    return (key :: value :: parts, rest)
  | _ + 1, .blockEnd :: rest => some ([], rest)
  | _, _ => none

/-- The items of a sequence between brackets. An item with a key is a mapping of one pair. -/
def readBrackets (handles : Handles) : Nat → Bool → List Token → Option (List NamedNode × List Token)
  | 0, _, _ => none
  | _ + 1, _, .closeBracket :: rest => some ([], rest)
  | room + 1, first, tokens => do
    let tokens ← afterComma first tokens
    match tokens with
    | .closeBracket :: rest => return ([], rest)
    | .key :: rest =>
      let (key, rest) ←
        match rest with
        | .value :: rest | .comma :: rest | .closeBracket :: rest => some (.blank none none, rest)
        | _ => readNode handles room false false rest
      let (value, rest) ←
        match rest with
        | .value :: rest =>
          if endsFlowItem rest then some (.blank none none, rest)
          else readNode handles room false false rest
        | _ => some (.blank none none, rest)
      let (items, rest) ← readBrackets handles room false rest
      return (.mapping none [key, value] :: items, rest)
    | _ =>
      let (item, rest) ← readNode handles room false false tokens
      let (items, rest) ← readBrackets handles room false rest
      return (item :: items, rest)

/-- The keys and values of a mapping between braces. -/
def readBraces (handles : Handles) : Nat → Bool → List Token → Option (List NamedNode × List Token)
  | 0, _, _ => none
  | _ + 1, _, .closeBrace :: rest => some ([], rest)
  | room + 1, first, tokens => do
    let tokens ← afterComma first tokens
    match tokens with
    | .closeBrace :: rest => return ([], rest)
    | .key :: rest =>
      let (key, rest) ←
        match rest with
        | .value :: _ => some (.blank none none, rest)
        | _ =>
          if endsFlowPart rest then some (.blank none none, rest)
          else readNode handles room false false rest
      let (value, rest) ←
        match rest with
        | .value :: rest =>
          if endsFlowPart rest then some (.blank none none, rest)
          else readNode handles room false false rest
        | _ => some (.blank none none, rest)
      let (parts, rest) ← readBraces handles room false rest
      return (key :: value :: parts, rest)
    | _ =>
      let (key, rest) ← readNode handles room false false tokens
      let (parts, rest) ← readBraces handles room false rest
      return (key :: .blank none none :: parts, rest)

end

/-! ## Texts -/

/-- Nothing but the marks that end documents is left. -/
def isFinished : List Token → Bool
  | .documentEnd :: rest => isFinished rest
  | [.textEnd] => true
  | _ => false

/-- There is no node before this token. -/
def endsDocument : List Token → Bool
  | .directive _ :: _ | .documentStart :: _ | .documentEnd :: _ | .textEnd :: _ => true
  | _ => false

/-- The root of the only document of some tokens, or that there is none. -/
def readRoot (tokens : List Token) : Option (Option NamedNode) := do
  let room := 2 * tokens.length + 2
  match tokens with
  | [.textEnd] => return none
  | .directive _ :: _ | .documentStart :: _ =>
    let (handles, tokens) ← readDirectives false [] tokens
    match tokens with
    | .documentStart :: rest =>
      if endsDocument rest then
        if isFinished rest then return some (.blank none none) else none
      else
        let (root, rest) ← readNode (handles ++ commonHandles) room true false rest
        if isFinished rest then return some root else none
    | _ => none
  | _ =>
    let (root, rest) ← readNode commonHandles room true false tokens
    if isFinished rest then return some root else none

/-- The only document of a text, or that there is none. A text with several documents, and one that
breaks the rules, has no answer. -/
def readDocument (text : String) : Option (Option Document) := do
  match ← readRoot (← tokens? text.toList) with
  | none => return none
  | some root => return some (← Document.ofNode root)

end AppBoundary.Yaml
