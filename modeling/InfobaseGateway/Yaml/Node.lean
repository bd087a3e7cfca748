import InfobaseGateway.Yaml.Token

/-!
# Nodes

What the tokens of a document mean: scalars, sequences and mappings, with tags, and references to
nodes that have names. A value that is left out is an empty plain scalar. A text holds one document
at most.
-/

namespace InfobaseGateway.Yaml

/-- A node of a document. A reference holds the number of the name that it goes by. -/
inductive Node
  | scalar (tag : Option TagText) (style : ScalarStyle) (text : List Char)
  | sequence (tag : Option TagText) (items : List Node)
  | mapping (tag : Option TagText) (entries : List (Node × Node))
  | reference (number : Nat)

/-- A document: its node, the nodes that references stand for, and its size, in which a scalar or a
reference counts once, and the start and the end of every other node count once each. -/
structure Document where
  root : Node
  named : List (Nat × Node)
  size : Nat

namespace Document

/-- The node that a node stands for. -/
def target? (document : Document) : Node → Option Node
  | .reference number => document.named.lookup number
  | node => some node

end Document

/-- The tokens that are left, and what is known of the document before them. -/
structure NodeSource where
  tokens : List Token
  handles : List (String × TagText)
  /-- The number of each name. -/
  numbers : List (String × Nat)
  /-- Where the node with a number begins; the first entry with the number counts. -/
  places : List (Nat × Nat)
  /-- The nodes that have names, by where they begin. -/
  nodes : List (Nat × Node)
  size : Nat

/-- Makes a part of a document, unless the tokens form none. -/
abbrev NodeReader := StateT NodeSource Option

namespace NodeReader

/-- The next token. -/
def peek : NodeReader (Option Token) := do
  return (← get).tokens.head?

/-- Whether one of some tokens comes next. -/
def isNext (tokens : List Token) : NodeReader Bool := do
  return (← peek).any (· ∈ tokens)

/-- Passes over a token. -/
def advance : NodeReader Unit :=
  modify fun state => { state with tokens := state.tokens.drop 1 }

/-- Passes over a token if it comes next. -/
def take (token : Token) : NodeReader Bool := do
  let found := (← peek) = some token
  if found then advance
  return found

/-- Passes over a token that has to come next. -/
def expect (token : Token) : NodeReader Unit := do
  if !(← take token) then failure

/-- Adds to the size of the document. -/
def grow (size : Nat) : NodeReader Unit :=
  modify fun state => { state with size := state.size + size }

/-- The node of a value that is left out. -/
def omitted (tag : Option TagText) : NodeReader Node := do
  grow 1
  return .scalar tag .plain []

/-- The name and the tag of a node, in any order. -/
structure Properties where
  name : Option String
  tag : Option WrittenTag

namespace Properties

/-- Whether there is a name or a tag. -/
def isSome (properties : Properties) : Bool :=
  properties.name.isSome || properties.tag.isSome

/-- Adds the property that comes next, if there is one of its kind not yet. -/
def extend (properties : Properties) : NodeReader Properties := do
  match (← peek), properties with
  | some (.anchor name), ⟨none, tag⟩ =>
    advance
    return ⟨some name, tag⟩
  | some (.tag tag), ⟨name, none⟩ =>
    advance
    return ⟨name, some tag⟩
  | _, _ => return properties

/-- Reads the properties of a node. -/
def read : NodeReader Properties := do
  extend (← extend ⟨none, none⟩)

end Properties

/-- Gives a name to the node that begins here. Its number is how many different names there have
been before, of which it may be one itself; references to a number mean the last node that has
it. -/
def register (name : String) : NodeReader Unit :=
  modify fun state =>
    let number := state.numbers.length
    let others := state.numbers.filter fun entry => entry.1 ≠ name
    { state with
      numbers := (name, number) :: others
      places := (number, state.size) :: state.places }

/-- Keeps a node that has a name. -/
def keep (place : Nat) (node : Node) : NodeReader Unit :=
  modify fun state => { state with nodes := (place, node) :: state.nodes }

/-- The node that goes by a name. -/
def referenced (name : String) : NodeReader Node := do
  grow 1
  let number ← StateT.lift ((← get).numbers.lookup name)
  return .reference number

/-- Reads a node that is left out if one of some tokens comes next. -/
def omittedBefore (tokens : List Token) (read : NodeReader Node) : NodeReader Node := do
  if ← isNext tokens then omitted none else read

/-- Reads the parts between the start and the end of a node. -/
def enclosed {α : Type} (read : NodeReader α) : NodeReader α := do
  grow 1
  let found ← read
  grow 1
  return found

mutual

/-- Reads a node. Only where `block` holds can it be a block; only where `level` holds can its items
stand at the column of the mapping around it. -/
def node : (bound : Nat) → (block level : Bool) → NodeReader Node
  | 0, _, _ => failure
  | bound + 1, block, level => do
    if let some (.reference name) := (← peek) then
      advance
      return ← referenced name
    let properties ← Properties.read
    let tag ← properties.tag.mapM fun tag => do
      StateT.lift (tag.resolve? (← get).handles)
    let place := (← get).size
    if let some name := properties.name then register name
    let node ← content bound block level properties.isSome tag
    if properties.name.isSome then keep place node
    return node

/-- Reads a node after its properties. With properties, all else may be left out. -/
def content : (bound : Nat) → (block level marked : Bool) → (tag : Option TagText) →
    NodeReader Node
  | 0, _, _, _, _ => failure
  | bound + 1, block, level, marked, tag => do
    match ← peek with
    | some (.scalar style text) =>
      advance
      grow 1
      return .scalar tag style text
    | some .openBracket =>
      advance
      .sequence tag <$> enclosed (flowItems bound true)
    | some .openBrace =>
      advance
      .mapping tag <$> enclosed (flowEntries bound true)
    | some next =>
      if level && next = .item then .sequence tag <$> enclosed (levelItems bound)
      else if block && next = .sequenceStart then
        advance
        .sequence tag <$> enclosed (blockItems bound)
      else if block && next = .mappingStart then
        advance
        .mapping tag <$> enclosed (blockEntries bound)
      else if marked then omitted tag
      else failure
    | none => if marked then omitted tag else failure

/-- Reads the items of a sequence up to its bracket. -/
def flowItems : (bound : Nat) → (first : Bool) → NodeReader (List Node)
  | 0, _ => failure
  | bound + 1, first => do
    if ← take .closeBracket then return []
    if !first then
      expect .comma
      if ← take .closeBracket then return []
    let item ←
      if ← take .key then do
        let entry ← enclosed (flowPair bound)
        pure (Node.mapping none [entry])
      else node bound false false
    return item :: (← flowItems bound false)

/-- Reads an item that is a mapping by itself. If its key is left out, the token in its place is
passed over. -/
def flowPair : (bound : Nat) → NodeReader (Node × Node)
  | 0 => failure
  | bound + 1 => do
    let key ←
      if ← isNext [.value, .comma, .closeBracket] then do
        advance
        omitted none
      else node bound false false
    let value ←
      if ← take .value then omittedBefore [.comma, .closeBracket] (node bound false false)
      else omitted none
    return (key, value)

/-- Reads the entries of a mapping up to its brace. -/
def flowEntries : (bound : Nat) → (first : Bool) → NodeReader (List (Node × Node))
  | 0, _ => failure
  | bound + 1, first => do
    if ← take .closeBrace then return []
    if !first then
      expect .comma
      if ← take .closeBrace then return []
    let entry ←
      if ← take .key then do
        let key ← omittedBefore [.value, .comma, .closeBrace] (node bound false false)
        let value ←
          if ← take .value then omittedBefore [.comma, .closeBrace] (node bound false false)
          else omitted none
        pure (key, value)
      else do
        let key ← node bound false false
        pure (key, ← omitted none)
    return entry :: (← flowEntries bound false)

/-- Reads the items of a sequence up to the end of its block. -/
def blockItems : (bound : Nat) → NodeReader (List Node)
  | 0 => failure
  | bound + 1 => do
    if ← take .blockEnd then return []
    expect .item
    let item ← omittedBefore [.item, .blockEnd] (node bound true false)
    return item :: (← blockItems bound)

/-- Reads the items of a sequence that has no block of its own. -/
def levelItems : (bound : Nat) → NodeReader (List Node)
  | 0 => failure
  | bound + 1 => do
    if !(← take .item) then return []
    let item ← omittedBefore [.item, .key, .value, .blockEnd] (node bound true false)
    return item :: (← levelItems bound)

/-- Reads the entries of a mapping up to the end of its block. -/
def blockEntries : (bound : Nat) → NodeReader (List (Node × Node))
  | 0 => failure
  | bound + 1 => do
    if ← take .blockEnd then return []
    expect .key
    let key ← omittedBefore [.key, .value, .blockEnd] (node bound true true)
    let value ←
      if ← take .value then omittedBefore [.key, .value, .blockEnd] (node bound true true)
      else omitted none
    return (key, value) :: (← blockEntries bound)

end

end NodeReader

namespace Document

/-- Reads the directives of a document: one version at most, and each handle once. -/
def directives? (version : Bool) (handles : List (String × TagText)) :
    List Token → Option (List (String × TagText) × List Token)
  | .directive (.version major minor) :: tokens =>
    if version || (major, minor) ∉ [(1, 1), (1, 2)] then none
    else directives? true handles tokens
  | .directive (.announcement handle start) :: tokens =>
    if handles.any fun known => known.1 = handle then none
    else directives? version ((handle, start) :: handles) tokens
  | tokens => some (handles, tokens)

/-- Whether a token cannot be part of a document. -/
def isOutside : Token → Bool
  | .directive _ | .documentStart | .documentEnd => true
  | _ => false

/-- Makes the node of a document from its tokens, with nothing but marks of its end after it. -/
def ofContent? (marked : Bool) (handles : List (String × TagText)) (tokens : List Token) :
    Option Document := do
  let bound := 4 * tokens.length + 4
  let read :=
    if marked && tokens.head?.all isOutside then NodeReader.omitted none
    else NodeReader.node bound true false
  let (root, state) ← read.run ⟨tokens, handles, [], [], [], 0⟩
  if state.tokens.all (· = .documentEnd) then
    let named := state.places.filterMap fun (number, place) =>
      (state.nodes.lookup place).map (number, ·)
    return ⟨root, named, state.size⟩
  else none

/-- The document of some tokens. Without any, its node is left out. -/
def ofTokens? (tokens : List Token) : Option Document := do
  let (handles, rest) ← directives? false [] tokens
  match rest with
  | .documentStart :: rest => ofContent? true handles rest
  | rest =>
    if tokens.isEmpty then ofContent? true handles []
    else if rest.length = tokens.length then ofContent? false handles rest
    else none

/-- The document that a text holds. -/
def read? (text : String) : Option Document := do
  ofTokens? (← tokens? text.toList)

end Document

end InfobaseGateway.Yaml
