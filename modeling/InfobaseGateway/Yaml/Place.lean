/-!
# Places in a document

Where reading has come to in a document, and what may be passed over between its parts. Lines end
with a line feed, or with one of the two separators of lines and paragraphs; other line ends are
written as line feeds before anything is read.
-/

namespace InfobaseGateway.Yaml

/-- Whether a character is a blank. -/
def isBlank (c : Char) : Bool :=
  c = ' ' || c = '\t'

/-- Whether a character ends a line. -/
def isBreak (c : Char) : Bool :=
  c = '\n' || c = '\u2028' || c = '\u2029'

/-- Whether a blank, a line end or the end of the document comes first. -/
def startsBlank : List Char → Bool
  | [] => true
  | c :: _ => isBlank c || isBreak c

/-- Whether a character has a meaning of its own inside brackets and braces. -/
def isFlowIndicator (c : Char) : Bool :=
  c = ',' || c = '[' || c = ']' || c = '\x7b' || c = '\x7d'

/-- Whether a character may stand in the name of a node, a tag or a directive. -/
def isNameChar (c : Char) : Bool :=
  c.isAlphanum || c = '_' || c = '-'

/-- Whether a character may stand in a document. -/
def isAdmitted (c : Char) : Bool :=
  c = '\t' || c = '\n' || c = '\x0d' || c = '\u0085' || 0x20 ≤ c.toNat && c.toNat ≤ 0x7e
    || 0xa0 ≤ c.toNat && c.toNat ≤ 0xfffd || 0x10000 ≤ c.toNat

/-- Writes every line end that is not a separator as a line feed. -/
def withLineFeeds : List Char → List Char
  | '\x0d' :: '\n' :: rest => '\n' :: withLineFeeds rest
  | '\x0d' :: rest => '\n' :: withLineFeeds rest
  | '\u0085' :: rest => '\n' :: withLineFeeds rest
  | c :: rest => c :: withLineFeeds rest
  | [] => []

/-- A place in a document. -/
structure Place where
  line : Nat
  column : Nat
  deriving DecidableEq

namespace Place

/-- The start of a document. -/
def start : Place :=
  ⟨0, 0⟩

/-- The place after a character. -/
def after (place : Place) (c : Char) : Place :=
  if isBreak c then ⟨place.line + 1, 0⟩ else ⟨place.line, place.column + 1⟩

/-- The place after a number of characters within a line. -/
def along (place : Place) (count : Nat) : Place :=
  ⟨place.line, place.column + count⟩

end Place

/-- A place, and what comes after it. -/
structure Cursor where
  rest : List Char
  place : Place

namespace Cursor

/-- The cursor after a number of characters within the line. -/
def along (cursor : Cursor) (count : Nat) : Cursor :=
  ⟨cursor.rest.drop count, cursor.place.along count⟩

/-- Passes over blanks within the line. -/
def pastBlanks (cursor : Cursor) : Cursor :=
  cursor.along (cursor.rest.takeWhile isBlank).length

end Cursor

/-- Whether a mark stands here that begins or ends a document. -/
def isDocumentMark (place : Place) (text : List Char) : Bool :=
  place.column = 0 &&
    match text with
    | '-' :: '-' :: '-' :: rest => startsBlank rest
    | '.' :: '.' :: '.' :: rest => startsBlank rest
    | _ => false

/-- Passes over spaces, comments and line ends, and says whether a key may begin then. Outside
brackets and braces a key may begin on every new line. Tabs are passed over inside brackets and
braces, and otherwise only where no key may begin. -/
def skipFrom (flow keys comment : Bool) (place : Place) : List Char → Cursor × Bool
  | [] => (⟨[], place⟩, keys)
  | c :: rest =>
    let next := place.after c
    if isBreak c then skipFrom flow (keys || !flow) false next rest
    else if comment || c = ' ' || (flow || !keys) && c = '\t' then
      skipFrom flow keys comment next rest
    else if c = '#' then skipFrom flow keys true next rest
    else if place.column = 0 && c = '\ufeff' then skipFrom flow keys false next rest
    else (⟨c :: rest, place⟩, keys)

/-- Passes over the rest of a line that holds a comment at most. -/
def lineEndFrom (comment : Bool) (place : Place) : List Char → Option Cursor
  | [] => some ⟨[], place⟩
  | c :: rest =>
    if isBreak c then some ⟨rest, place.after c⟩
    else if comment || isBlank c then lineEndFrom comment (place.after c) rest
    else if c = '#' then lineEndFrom true (place.after c) rest
    else none

end InfobaseGateway.Yaml
