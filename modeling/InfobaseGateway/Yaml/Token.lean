import InfobaseGateway.Yaml.Scalar
import InfobaseGateway.Yaml.Tag

/-!
# Tokens

The parts of a document in order: marks, properties of nodes and scalars. Indentation becomes marks
too, so that every block has a start and an end among the tokens. A key stands on one line with its
colon and is not longer than 1024 characters; only the colon shows that it is a key, and the mark
for it is then put in before its first token.
-/

namespace InfobaseGateway.Yaml

/-- A part of a document. -/
inductive Token
  | directive (directive : Directive)
  | documentStart
  | documentEnd
  /-- Where a sequence, a mapping or either begins or ends by its indentation. -/
  | sequenceStart
  | mappingStart
  | blockEnd
  | openBracket
  | closeBracket
  | openBrace
  | closeBrace
  /-- The hyphen before an item, and the comma after one. -/
  | item
  | comma
  | key
  | value
  | anchor (name : String)
  | reference (name : String)
  | tag (tag : WrittenTag)
  | scalar (style : ScalarStyle) (text : List Char)
  deriving DecidableEq

/-- Where a key may have begun, and how many tokens there were before it. Nothing but a key can
stand at a place where one is `required`. -/
structure KeyStart where
  required : Bool
  position : Nat
  place : Place

/-- How far the tokens of a document have been read. -/
structure Reading where
  cursor : Cursor
  /-- The columns of the open blocks, the innermost first. -/
  columns : List Nat
  /-- Where the key that is being read began, if it is one. -/
  keyStart : Option KeyStart
  /-- The same for what lies outside of each open bracket or brace, the innermost first. -/
  outer : List (Option KeyStart)
  /-- Whether a key may begin here. -/
  keys : Bool
  tokens : Array Token

namespace Reading

/-- Before the first token. -/
def start (text : List Char) : Reading :=
  ⟨⟨text, .start⟩, [], none, [], true, #[]⟩

/-- Whether brackets or braces are open, inside which indentation has no meaning. -/
def inFlow (reading : Reading) : Bool :=
  !reading.outer.isEmpty

/-- The column at which the content of the innermost block lies at the least. -/
def least (reading : Reading) : Nat :=
  (reading.columns.head?.map (· + 1)).getD 0

/-- Adds a token. -/
def push (reading : Reading) (token : Token) : Reading :=
  { reading with tokens := reading.tokens.push token }

/-- Passes over a number of characters within the line. -/
def along (reading : Reading) (count : Nat) : Reading :=
  { reading with cursor := reading.cursor.along count }

/-- Says whether a key may begin here. -/
def allowing (reading : Reading) (keys : Bool) : Reading :=
  { reading with keys := keys }

/-- Whether a key that began somewhere can still get its colon at a place. -/
def reaches (key : KeyStart) (place : Place) : Bool :=
  key.place.line = place.line && place.column ≤ key.place.column + 1024

/-- A key that can no longer get its colon is none. -/
def expire (place : Place) : Option KeyStart → Option (Option KeyStart)
  | none => some none
  | some key =>
    if reaches key place then some (some key) else if key.required then none else some none

/-- Gives up every key that can no longer get its colon. -/
def expireKeys (reading : Reading) : Option Reading := do
  let keyStart ← expire reading.cursor.place reading.keyStart
  let outer ← reading.outer.mapM (expire reading.cursor.place)
  return { reading with keyStart := keyStart, outer := outer }

/-- Gives up the key that is being read. -/
def dropKey (reading : Reading) : Option Reading :=
  match reading.keyStart with
  | some key => if key.required then none else some { reading with keyStart := none }
  | none => some reading

/-- Notes that a key may begin here. -/
def noteKey (reading : Reading) : Option Reading :=
  if reading.keys then do
    let reading ← reading.dropKey
    let place := reading.cursor.place
    let required := !reading.inFlow && reading.columns.head? = some place.column
    return { reading with keyStart := some ⟨required, reading.tokens.size, place⟩ }
  else some reading

/-- Ends the blocks that lie to the right of a column. -/
def closeBlocks (least : Nat) (tokens : Array Token) : List Nat → Array Token × List Nat
  | [] => (tokens, [])
  | column :: columns =>
    if least ≤ column then closeBlocks least (tokens.push .blockEnd) columns
    else (tokens, column :: columns)

/-- Ends the blocks whose content lies at a column beyond the given one; brackets and braces keep
them open. -/
def dedent (reading : Reading) (column : Nat) : Reading :=
  if reading.inFlow then reading
  else
    let (tokens, columns) := closeBlocks (column + 1) reading.tokens reading.columns
    { reading with tokens := tokens, columns := columns }

/-- Ends all blocks. -/
def dedentAll (reading : Reading) : Reading :=
  if reading.inFlow then reading
  else
    let (tokens, columns) := closeBlocks 0 reading.tokens reading.columns
    { reading with tokens := tokens, columns := columns }

/-- Begins a block at a column if it lies to the right of the innermost one, with its mark at a
position among the tokens. -/
def indent (reading : Reading) (column position : Nat) (mark : Token) : Reading :=
  if reading.inFlow || column < reading.least then reading
  else
    { reading with
      columns := column :: reading.columns
      tokens := reading.tokens.insertIdxIfInBounds position mark }

/-- Begins a block here if it lies to the right of the innermost one. Outside brackets and braces a
block begins only where a key may. -/
def indentHere (reading : Reading) (mark : Token) : Option Reading :=
  if reading.inFlow then some reading
  else if reading.keys then
    some (reading.indent reading.cursor.place.column reading.tokens.size mark)
  else none

/-- Reads a mark that begins or ends a document. -/
def readDocumentMark (reading : Reading) (mark : Token) : Option Reading := do
  let reading ← reading.dedentAll.dropKey
  return ((reading.allowing false).push mark).along 3

/-- Reads a directive. -/
def readDirective (reading : Reading) : Option Reading := do
  let reading ← reading.dedentAll.dropKey
  let (directive, cursor) ← Directive.read? reading.cursor
  return { (reading.allowing false).push (.directive directive) with cursor := cursor }

/-- Reads an opening bracket or brace. -/
def readOpening (reading : Reading) (mark : Token) : Option Reading := do
  let reading ← reading.noteKey
  let reading := { reading with keyStart := none, outer := reading.keyStart :: reading.outer }
  return ((reading.allowing true).push mark).along 1

/-- Reads a closing bracket or brace. -/
def readClosing (reading : Reading) (mark : Token) : Option Reading := do
  let reading ← reading.dropKey
  let reading :=
    match reading.outer with
    | keyStart :: outer => { reading with keyStart := keyStart, outer := outer }
    | [] => reading
  return ((reading.allowing false).push mark).along 1

/-- Reads a comma between items. -/
def readComma (reading : Reading) : Option Reading := do
  let reading ← reading.dropKey
  return ((reading.allowing true).push .comma).along 1

/-- Reads the hyphen before an item. -/
def readItem (reading : Reading) : Option Reading := do
  let reading ← reading.indentHere .sequenceStart
  let reading ← reading.dropKey
  return ((reading.allowing true).push .item).along 1

/-- Reads the question mark before a key. -/
def readKey (reading : Reading) : Option Reading := do
  let reading ← reading.indentHere .mappingStart
  let reading ← reading.dropKey
  return ((reading.allowing !reading.inFlow).push .key).along 1

/-- Reads the colon before a value. What may have been a key is one now. -/
def readValue (reading : Reading) : Option Reading :=
  match reading.keyStart with
  | some key =>
    let reading :=
      { reading with
        keyStart := none
        tokens := reading.tokens.insertIdxIfInBounds key.position .key }
    let reading := reading.indent key.place.column key.position .mappingStart
    some (((reading.allowing false).push .value).along 1)
  | none => do
    let reading ← reading.indentHere .mappingStart
    return ((reading.allowing !reading.inFlow).push .value).along 1

/-- Reads the name of a node, after the character that announces it. -/
def readName (reading : Reading) (token : String → Token) : Option Reading := do
  let reading ← reading.noteKey
  let reading := reading.along 1
  let name := reading.cursor.rest.takeWhile isNameChar
  let reading := reading.along name.length
  let ends := startsBlank reading.cursor.rest
    || reading.cursor.rest.head?.any (· ∈ "?:,]\x7d%@\x60".toList)
  if name.isEmpty || !ends then none
  return (reading.allowing false).push (token (String.ofList name))

/-- Reads the tag of a node. -/
def readTag (reading : Reading) : Option Reading := do
  let reading ← reading.noteKey
  let (tag, cursor) ← WrittenTag.read? reading.inFlow reading.cursor
  return { (reading.allowing false).push (.tag tag) with cursor := cursor }

/-- Reads a scalar of indented lines. A key may begin after it, on a new line. -/
def readBlockScalar (reading : Reading) (folded : Bool) : Option Reading := do
  let reading ← reading.dropKey
  let (text, cursor) ← blockScalar folded reading.least (reading.cursor.along 1)
  let style := if folded then ScalarStyle.folded else .literal
  return { (reading.allowing true).push (.scalar style text) with cursor := cursor }

/-- Reads a scalar between quotes. -/
def readQuoted (reading : Reading) (double : Bool) : Option Reading := do
  let reading ← reading.noteKey
  let after := reading.cursor.along 1
  let (text, cursor) ←
    if double then doubleQuotedFrom [] Gap.none after.place after.rest
    else singleQuotedFrom [] Gap.none after.place after.rest
  return { (reading.allowing false).push (.scalar .quoted text) with cursor := cursor }

/-- Reads a plain scalar. -/
def readPlain (reading : Reading) : Option Reading := do
  let reading ← reading.noteKey
  let plain ←
    plainFrom reading.inFlow reading.least [] Gap.none reading.cursor.place reading.cursor.rest
  return { (reading.allowing plain.crosses).push (.scalar .plain plain.text) with
    cursor := plain.cursor }

/-- Reads the token that begins here, with the marks that go before it. -/
def readToken (reading : Reading) : Option Reading :=
  let flow := reading.inFlow
  let rest := reading.cursor.rest
  let place := reading.cursor.place
  let indicated (c : Char) := rest.head? = some c && (flow || startsBlank (rest.drop 1))
  match rest with
  | [] => none
  | first :: after =>
    if place.column = 0 && first = '%' then reading.readDirective
    else if isDocumentMark place rest then
      reading.readDocumentMark (if first = '-' then .documentStart else .documentEnd)
    else if first = '[' then reading.readOpening .openBracket
    else if first = '\x7b' then reading.readOpening .openBrace
    else if first = ']' then reading.readClosing .closeBracket
    else if first = '\x7d' then reading.readClosing .closeBrace
    else if first = ',' then reading.readComma
    else if first = '-' && startsBlank after then reading.readItem
    else if indicated '?' then reading.readKey
    else if indicated ':' then reading.readValue
    else if first = '*' then reading.readName .reference
    else if first = '&' then reading.readName .anchor
    else if first = '!' then reading.readTag
    else if first = '|' && !flow then reading.readBlockScalar false
    else if first = '>' && !flow then reading.readBlockScalar true
    else if first = '\'' then reading.readQuoted false
    else if first = '"' then reading.readQuoted true
    else if startsPlain flow rest then reading.readPlain
    else none

/-- Passes over everything up to the next token, and gives up the keys that end before it. -/
def skip (reading : Reading) : Option Reading :=
  let (cursor, keys) :=
    skipFrom reading.inFlow reading.keys false reading.cursor.place reading.cursor.rest
  expireKeys { reading with cursor := cursor, keys := keys }

/-- Reads the tokens that are left. Every token takes a character, so as many steps as there are
characters and one more are enough. -/
def finish : (steps : Nat) → Reading → Option (Array Token)
  | 0, _ => none
  | steps + 1, reading => do
    let reading ← reading.skip
    if reading.cursor.rest.isEmpty then
      let reading ← reading.dedentAll.dropKey
      return reading.tokens
    let reading ← (reading.dedent reading.cursor.place.column).readToken
    finish steps reading

end Reading

/-- The tokens of a text. -/
def tokens? (text : List Char) : Option (List Token) :=
  if text.all isAdmitted then
    let chars := withLineFeeds text
    ((Reading.start chars).finish (chars.length + 1)).map Array.toList
  else none

end InfobaseGateway.Yaml
