import InfobaseGateway.Config.Number
import InfobaseGateway.Yaml.Place

/-!
# Scalars of a document

Plain and quoted scalars may go on over several lines: a single line end becomes a space, and of
several the first is dropped. A block scalar is the indented lines below its mark, kept as they are
or folded in the same way.
-/

namespace InfobaseGateway.Yaml

/-- How a scalar is written. -/
inductive ScalarStyle
  | plain
  | quoted
  | literal
  | folded
  deriving DecidableEq

/-- What stands between two words of a scalar: blanks within a line, or line ends. The characters
stand in reverse. -/
inductive Gap
  | blanks (chars : List Char)
  | lines (first : Option Char) (more : List Char)

namespace Gap

/-- Nothing between two characters. -/
def none : Gap :=
  .blanks []

/-- Whether there is something. -/
def isOpen : Gap → Bool
  | blanks chars => !chars.isEmpty
  | lines _ _ => true

/-- Whether the line ends. -/
def crosses : Gap → Bool
  | blanks _ => false
  | lines _ _ => true

/-- A gap and a blank. Blanks after a line end do not count. -/
def addBlank (c : Char) : Gap → Gap
  | blanks chars => .blanks (c :: chars)
  | gap => gap

/-- A gap and a line end. Blanks before a line end do not count. -/
def addBreak (c : Char) : Gap → Gap
  | blanks _ => .lines (some c) []
  | lines first more => .lines first (c :: more)

/-- What a gap means, in reverse. -/
def folded : Gap → List Char
  | blanks chars => chars
  | lines (some '\n') [] => [' ']
  | lines (some '\n') more => more
  | lines first more => more ++ first.toList

end Gap

/-- Whether a plain scalar ends before a character. -/
def endsPlain (flow : Bool) (c : Char) (rest : List Char) : Bool :=
  c = ':' && startsBlank rest || flow && isFlowIndicator c

/-- Whether a colon inside a plain scalar is followed by a character that forbids it. -/
def forbidsColon : List Char → Bool
  | c :: _ => isFlowIndicator c || c = '?'
  | [] => false

/-- What has been read of a plain scalar, where it ends, and whether lines end after it. -/
structure PlainText where
  text : List Char
  cursor : Cursor
  crosses : Bool

/-- Reads on in a plain scalar. Outside brackets and braces it ends with a line that begins before
the column `least`. -/
def plainFrom (flow : Bool) (least : Nat) (read : List Char) (gap : Gap) (place : Place) :
    List Char → Option PlainText
  | [] => some ⟨read.reverse, ⟨[], place⟩, gap.crosses⟩
  | c :: rest =>
    let next := place.after c
    if isBreak c then plainFrom flow least read (gap.addBreak c) next rest
    else if isBlank c then
      if gap.crosses && c = '\t' && place.column < least then none
      else plainFrom flow least read (gap.addBlank c) next rest
    else if gap.isOpen && (c = '#' || isDocumentMark place (c :: rest)
        || gap.crosses && !flow && place.column < least) then
      some ⟨read.reverse, ⟨c :: rest, place⟩, gap.crosses⟩
    else if flow && c = ':' && forbidsColon rest then none
    else if endsPlain flow c rest then
      some ⟨read.reverse, ⟨c :: rest, place⟩, gap.crosses⟩
    else plainFrom flow least (c :: (gap.folded ++ read)) Gap.none next rest

/-- Whether a plain scalar can begin with these characters. -/
def startsPlain (flow : Bool) : List Char → Bool
  | [] => false
  | c :: rest =>
    if c = '-' then !startsBlank rest
    else if c = '?' || c = ':' then !flow && !startsBlank rest
    else !startsBlank [c] && c ∉ ",[]\x7b\x7d#&*!|>'\"%@\x60".toList

/-- Reads on in a text between single quotes, where two quotes stand for one. -/
def singleQuotedFrom (read : List Char) (gap : Gap) (place : Place) :
    List Char → Option (List Char × Cursor)
  | [] => none
  | '\'' :: '\'' :: rest =>
    singleQuotedFrom ('\'' :: (gap.folded ++ read)) Gap.none (place.along 2) rest
  | '\'' :: rest => some ((gap.folded ++ read).reverse, ⟨rest, place.along 1⟩)
  | c :: rest =>
    if isDocumentMark place (c :: rest) then none
    else if isBreak c then singleQuotedFrom read (gap.addBreak c) (place.after c) rest
    else if isBlank c then singleQuotedFrom read (gap.addBlank c) (place.after c) rest
    else singleQuotedFrom (c :: (gap.folded ++ read)) Gap.none (place.after c) rest

/-- The characters that a backslash and one more character stand for. -/
def escapes : List (Char × Char) :=
  [('0', '\x00'), ('a', '\x07'), ('b', '\x08'), ('t', '\t'), ('\t', '\t'), ('n', '\n'),
    ('v', '\x0b'), ('f', '\x0c'), ('r', '\x0d'), ('e', '\x1b'), (' ', ' '), ('"', '"'),
    ('/', '/'), ('\\', '\\'), ('N', '\u0085'), ('_', '\u00a0'), ('L', '\u2028'), ('P', '\u2029')]

/-- Reads on in a text between double quotes. -/
def doubleQuotedFrom (read : List Char) (gap : Gap) (place : Place) :
    List Char → Option (List Char × Cursor)
  | [] => none
  | '"' :: rest => some ((gap.folded ++ read).reverse, ⟨rest, place.along 1⟩)
  | '\\' :: 'x' :: a :: b :: rest => do
    let char ← Config.Number.charOfHex? [a, b]
    doubleQuotedFrom (char :: (gap.folded ++ read)) Gap.none (place.along 4) rest
  | '\\' :: 'u' :: a :: b :: c :: d :: rest => do
    let char ← Config.Number.charOfHex? [a, b, c, d]
    doubleQuotedFrom (char :: (gap.folded ++ read)) Gap.none (place.along 6) rest
  | '\\' :: 'U' :: a :: b :: c :: d :: e :: f :: g :: h :: rest => do
    let char ← Config.Number.charOfHex? [a, b, c, d, e, f, g, h]
    doubleQuotedFrom (char :: (gap.folded ++ read)) Gap.none (place.along 10) rest
  | '\\' :: c :: rest =>
    if isBreak c then
      doubleQuotedFrom (gap.folded ++ read) (.lines Option.none []) (place.after c) rest
    else
      match escapes.lookup c with
      | some char =>
        doubleQuotedFrom (char :: (gap.folded ++ read)) Gap.none (place.along 2) rest
      | none => none
  | c :: rest =>
    if isDocumentMark place (c :: rest) then none
    else if isBreak c then doubleQuotedFrom read (gap.addBreak c) (place.after c) rest
    else if isBlank c then doubleQuotedFrom read (gap.addBlank c) (place.after c) rest
    else doubleQuotedFrom (c :: (gap.folded ++ read)) Gap.none (place.after c) rest

/-- What becomes of the line ends after a block scalar. -/
inductive Chomping
  | strip
  | clip
  | keep

/-- The mark of a block scalar, after the character that opens it: what becomes of the line ends and
how far the lines are indented. -/
def blockMark : List Char → Chomping × Option Nat × List Char
  | '-' :: c :: rest =>
    if '1' ≤ c ∧ c ≤ '9' then (.strip, some (c.toNat - '0'.toNat), rest)
    else (.strip, none, c :: rest)
  | '+' :: c :: rest =>
    if '1' ≤ c ∧ c ≤ '9' then (.keep, some (c.toNat - '0'.toNat), rest)
    else (.keep, none, c :: rest)
  | '-' :: rest => (.strip, none, rest)
  | '+' :: rest => (.keep, none, rest)
  | c :: rest =>
    if '1' ≤ c ∧ c ≤ '9' then
      let indent := some (c.toNat - '0'.toNat)
      match rest with
      | '-' :: rest => (.strip, indent, rest)
      | '+' :: rest => (.keep, indent, rest)
      | rest => (.clip, indent, rest)
    else (.clip, none, c :: rest)
  | [] => (.clip, none, [])

/-- The column of the first line that is not empty, or of a longer line of spaces before it. -/
def leadingColumn (column longest : Nat) : List Char → Option Nat
  | [] => some (max column longest)
  | c :: rest =>
    if c = ' ' then leadingColumn (column + 1) longest rest
    else if c = '\t' then none
    else if isBreak c then leadingColumn 0 (max column longest) rest
    else some (max column longest)

/-- What has been read of a block scalar, in reverse, with the line ends that may follow it. -/
structure BlockText where
  read : List Char
  ending : Option Char
  more : List Char
  /-- Whether the last line began with a blank, and so is not folded. -/
  blank : Bool
  inLine : Bool

namespace BlockText

/-- Begins a line with a character. -/
def beginLine (folded : Bool) (text : BlockText) (c : Char) : BlockText :=
  let gap :=
    if folded && text.ending = some '\n' && !text.blank && !isBlank c then
      if text.more.isEmpty then [' '] else text.more
    else text.more ++ text.ending.toList
  ⟨c :: (gap ++ text.read), none, [], isBlank c, true⟩

/-- The text of a block scalar. -/
def chomped (text : BlockText) : Chomping → List Char
  | .strip => text.read.reverse
  | .clip => (text.ending.toList ++ text.read).reverse
  | .keep => (text.more ++ text.ending.toList ++ text.read).reverse

end BlockText

/-- Reads on in a block scalar whose lines begin at the column `indent`. -/
def blockFrom (folded : Bool) (indent : Nat) (text : BlockText) (place : Place) :
    List Char → Option (BlockText × Cursor)
  | [] => some (text, ⟨[], place⟩)
  | c :: rest =>
    let next := place.after c
    if text.inLine then
      if isBreak c then
        blockFrom folded indent { text with ending := some c, inLine := false } next rest
      else blockFrom folded indent { text with read := c :: text.read } next rest
    else if isBreak c then
      blockFrom folded indent { text with more := c :: text.more } next rest
    else if indent ≤ place.column then
      blockFrom folded indent (text.beginLine folded c) next rest
    else if c = ' ' then blockFrom folded indent text next rest
    else if c = '\t' then none
    else some (text, ⟨c :: rest, place⟩)

/-- Reads a block scalar after the character that opens it. Its lines begin at the column `least` at
the least. -/
def blockScalar (folded : Bool) (least : Nat) (cursor : Cursor) : Option (List Char × Cursor) := do
  let (chomping, given, rest) := blockMark cursor.rest
  let start ← lineEndFrom false (cursor.place.along (cursor.rest.length - rest.length)) rest
  let indent ←
    match given with
    | some indent => some (least - 1 + indent)
    | none => (leadingColumn 0 0 start.rest).map fun column => max column (max least 1)
  let (text, cursor) ← blockFrom folded indent ⟨[], none, [], false, false⟩ start.place start.rest
  return (text.chomped chomping, cursor)

end InfobaseGateway.Yaml
