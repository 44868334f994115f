import BtrfsStore.Yaml.Token.Scan
/-!
# BtrfsStore.Yaml.Node

The nodes that tokens describe: scalars, sequences and mappings with their
tags and anchors, before anything is known about what scalars mean.

Anchors are numbered. A number is the count of the names that were in use
before, so that a name that is used again, and the next new name, share one;
then the later node is the one that is meant.
-/

namespace BtrfsStore.Yaml

/-- What stands in front of a node. -/
structure Properties where
  /-- The number of the anchor. -/
  anchor : Option Nat := none
  tag : Option Tag := none
  deriving Repr, Inhabited

/-- A node. -/
inductive Node where
  /-- Stands for the node with the given anchor. -/
  | alias (anchor : Nat)
  | scalar (properties : Properties) (text : String) (plain : Bool)
  | seq (properties : Properties) (items : List Node)
  | map (properties : Properties) (entries : List (Node × Node))
  deriving Repr, Inhabited

namespace Node

/-- A node that is not written. -/
def absent : Node := .scalar {} "" true

/-- What stands in front of a node. -/
def properties : Node → Properties
  | .alias _ => {}
  | .scalar p _ _ => p
  | .seq p _ => p
  | .map p _ => p

/-! ### Reading tokens -/

/-- The state of reading nodes. -/
structure State where
  tokens : List Token
  /-- The names of anchors with their numbers. -/
  anchors : List (String × Nat) := []
  /-- The handles of tags with what they stand for. -/
  handles : List (String × Tag)

/-- Reads something from the tokens. -/
abbrev Parser := StateT State (Except String)

/-- The next token. -/
def peek : Parser Token := do
  pure ((← get).tokens.head?.getD .streamEnd)

/-- Moves past the next token. -/
def advance : Parser Unit := modify fun s => { s with tokens := s.tokens.drop 1 }

/-- Moves past the next token if it is the given one. -/
def accept (t : Token) : Parser Bool := do
  if (← peek) == t then
    advance
    pure true
  else pure false

/-- Gives a name the next number. -/
def declare (name : String) : Parser Nat := do
  let s ← get
  let number := s.anchors.length
  let anchors := if s.anchors.any (·.1 == name) then
      s.anchors.map fun a => if a.1 == name then (name, number) else a
    else (name, number) :: s.anchors
  set { s with anchors }
  pure number

/-- The number of a name. -/
def numberOf (name : String) : Parser Nat := do
  match (← get).anchors.lookup name with
  | some number => pure number
  | none => throw "unknown anchor"

/-- The whole tag for a handle and a suffix. -/
def wholeTag (handle : String) (suffix : Tag) : Parser Tag := do
  if handle.isEmpty then pure suffix
  else
    match (← get).handles.lookup handle with
    | some expansion => pure (expansion ++ suffix)
    | none => throw "found undefined tag handle"

/-- Reads an anchor and a tag in either order, and whether there was one. -/
def readProperties : Parser (Properties × Bool) := do
  match ← peek with
  | .anchor name =>
    advance
    let anchor ← declare name
    match ← peek with
    | .tag handle suffix =>
      advance
      pure ({ anchor := some anchor, tag := some (← wholeTag handle suffix) }, true)
    | _ => pure ({ anchor := some anchor }, true)
  | .tag handle suffix =>
    advance
    let tag ← wholeTag handle suffix
    match ← peek with
    | .anchor name =>
      advance
      pure ({ anchor := some (← declare name), tag := some tag }, true)
    | _ => pure ({ tag := some tag }, true)
  | _ => pure ({}, false)

/-- Whether a token ends an entry of a block mapping. -/
def endsBlockEntry (t : Token) : Bool := t == .key || t == .value || t == .blockEnd

/-- The complaint about text that is beyond the reach of the reader. -/
def tooLong : String := "exceeded the number of steps"

mutual

/-- Reads a node. In a block mapping, a sequence may stand at the column of its
key (`indentless`). -/
def readNode : Nat → Bool → Bool → Parser Node
  | 0, _, _ => throw tooLong
  | fuel + 1, block, indentless => do
    if let .alias name := ← peek then
      advance
      return .alias (← numberOf name)
    let (p, given) ← readProperties
    match ← peek with
    | .scalar text plain =>
      advance
      pure (.scalar p text plain)
    | .flowSequenceStart =>
      advance
      pure (.seq p (← readFlowItems fuel true))
    | .flowMappingStart =>
      advance
      pure (.map p (← readFlowEntries fuel true))
    | .blockEntry =>
      if indentless then pure (.seq p (← readIndentlessItems fuel))
      else if given then pure (.scalar p "" true)
      else throw "did not find expected node content"
    | .blockSequenceStart =>
      if block then
        advance
        pure (.seq p (← readBlockItems fuel))
      else if given then pure (.scalar p "" true)
      else throw "did not find expected node content"
    | .blockMappingStart =>
      if block then
        advance
        pure (.map p (← readBlockEntries fuel))
      else if given then pure (.scalar p "" true)
      else throw "did not find expected node content"
    | _ =>
      if given then pure (.scalar p "" true) else throw "did not find expected node content"

/-- Reads the items of a block sequence and its end. -/
def readBlockItems : Nat → Parser (List Node)
  | 0 => throw tooLong
  | fuel + 1 => do
    if ← accept .blockEnd then return []
    if !(← accept .blockEntry) then throw "did not find expected '-' indicator"
    let t ← peek
    let item ← if t == .blockEntry || t == .blockEnd then pure absent
      else readNode fuel true false
    pure (item :: (← readBlockItems fuel))

/-- Reads the items of a sequence at the column of its key. -/
def readIndentlessItems : Nat → Parser (List Node)
  | 0 => throw tooLong
  | fuel + 1 => do
    if !(← accept .blockEntry) then return []
    let t ← peek
    let item ← if t == .blockEntry || endsBlockEntry t then pure absent
      else readNode fuel true false
    pure (item :: (← readIndentlessItems fuel))

/-- Reads the entries of a block mapping and its end. -/
def readBlockEntries : Nat → Parser (List (Node × Node))
  | 0 => throw tooLong
  | fuel + 1 => do
    if ← accept .blockEnd then return []
    let key ←
      if ← accept .key then
        if endsBlockEntry (← peek) then pure absent else readNode fuel true true
      else throw "did not find expected key"
    let value ←
      if ← accept .value then
        if endsBlockEntry (← peek) then pure absent else readNode fuel true true
      else pure absent
    pure ((key, value) :: (← readBlockEntries fuel))

/-- Reads the items of a flow sequence and its end. -/
def readFlowItems : Nat → Bool → Parser (List Node)
  | 0, _ => throw tooLong
  | fuel + 1, first => do
    if ← accept .flowSequenceEnd then return []
    if !first then
      if !(← accept .flowEntry) then throw "did not find expected ',' or ']'"
    if ← accept .flowSequenceEnd then return []
    let item ←
      if ← accept .key then
        let t ← peek
        let key ← if t == .value || t == .flowEntry || t == .flowSequenceEnd then do
            advance
            pure absent
          else readNode fuel false false
        let value ← readFlowValue fuel .flowSequenceEnd
        pure (.map {} [(key, value)])
      else readNode fuel false false
    pure (item :: (← readFlowItems fuel false))

/-- Reads the value after a key of a flow collection that ends with `closing`,
if there is one. -/
def readFlowValue : Nat → Token → Parser Node
  | 0, _ => throw tooLong
  | fuel + 1, closing => do
    if ← accept .value then
      let t ← peek
      if t == .flowEntry || t == closing then pure absent else readNode fuel false false
    else pure absent

/-- Reads the entries of a flow mapping and its end. -/
def readFlowEntries : Nat → Bool → Parser (List (Node × Node))
  | 0, _ => throw tooLong
  | fuel + 1, first => do
    if ← accept .flowMappingEnd then return []
    if !first then
      if !(← accept .flowEntry) then throw "did not find expected ',' or '\x7d'"
    if ← accept .flowMappingEnd then return []
    let entry ←
      if ← accept .key then
        let t ← peek
        let key ← if t == .value || t == .flowEntry || t == .flowMappingEnd then pure absent
          else readNode fuel false false
        pure (key, ← readFlowValue fuel .flowMappingEnd)
      else pure (← readNode fuel false false, absent)
    pure (entry :: (← readFlowEntries fuel false))

end

/-! ### Documents -/

/-- The handles that need no declaration. -/
def standardHandles : List (String × Tag) := [("!", .ofString "!"), ("!!", .standard "")]

/-- Reads the directives in front of a document. -/
def readDirectives : List Token → Bool → List (String × Tag) →
    Except String (List (String × Tag) × List Token)
  | .versionDirective major minor :: rest, seen, handles =>
    if seen then .error "found duplicate %YAML directive"
    else if major != 1 || (minor != 1 && minor != 2) then
      .error "found incompatible YAML document"
    else readDirectives rest true handles
  | .tagDirective handle expansion :: rest, seen, handles =>
    if handles.any (·.1 == handle) then .error "found duplicate %TAG directive"
    else readDirectives rest seen (handles ++ [(handle, expansion)])
  | tokens, _, handles => .ok (handles, tokens)

/-- Whether a token begins or ends a document, or the text ends there. -/
def isDocumentLimit : Token → Bool
  | .versionDirective _ _ | .tagDirective _ _ | .documentStart | .documentEnd | .streamEnd => true
  | _ => false

/-- Reads the node of a document with the given handles. -/
def ofContent (handles : List (String × Tag)) (tokens : List Token) :
    Except String (Node × List Token) := do
  let fuel := 4 * tokens.length + 16
  let (node, s) ← (readNode fuel true false).run { tokens, handles := handles ++ standardHandles }
  pure (node, s.tokens)

/-- Reads the single document of a text; none if there is nothing but
directives and comments. -/
def ofTokens? (tokens : List Token) : Except String (Option Node) := do
  if tokens.head?.getD .streamEnd == .streamEnd then return none
  let explicit := (tokens.head?.map isDocumentLimit).getD true && tokens.head? != some .documentEnd
  let (node, rest) ←
    if explicit then do
      let (handles, rest) ← readDirectives tokens false []
      match rest with
      | .documentStart :: rest =>
        if (rest.head?.map isDocumentLimit).getD true then pure (absent, rest)
        else ofContent handles rest
      | _ => .error "did not find expected <document start>"
    else ofContent [] tokens
  if rest.dropWhile (· == .documentEnd) == [.streamEnd] then pure (some node)
  else .error "deserializing from YAML containing more than one document is not supported"

/-! ### Anchors -/

mutual

/-- The nodes with an anchor, in the order of the text. -/
def anchored : Node → List (Nat × Node)
  | .alias _ => []
  | n@(.scalar p _ _) => own p n
  | n@(.seq p items) => own p n ++ anchoredItems items
  | n@(.map p entries) => own p n ++ anchoredEntries entries

/-- The same for a list of nodes. -/
def anchoredItems : List Node → List (Nat × Node)
  | [] => []
  | n :: rest => anchored n ++ anchoredItems rest

/-- The same for the entries of a mapping. -/
def anchoredEntries : List (Node × Node) → List (Nat × Node)
  | [] => []
  | (k, v) :: rest => anchored k ++ anchored v ++ anchoredEntries rest

/-- A node under its own anchor. -/
def own (p : Properties) (n : Node) : List (Nat × Node) :=
  match p.anchor with
  | some a => [(a, n)]
  | none => []

end

mutual

/-- The size of a node: collections count twice, for their start and end. -/
def size : Node → Nat
  | .alias _ => 1
  | .scalar _ _ _ => 1
  | .seq _ items => 2 + sizeItems items
  | .map _ entries => 2 + sizeEntries entries

/-- The size of a list of nodes. -/
def sizeItems : List Node → Nat
  | [] => 0
  | n :: rest => size n + sizeItems rest

/-- The size of the entries of a mapping. -/
def sizeEntries : List (Node × Node) → Nat
  | [] => 0
  | (k, v) :: rest => size k + size v + sizeEntries rest

end

end Node

end BtrfsStore.Yaml
