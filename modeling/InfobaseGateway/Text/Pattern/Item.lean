import InfobaseGateway.Config.Number
import InfobaseGateway.Text.Blank

/-!
# Items of patterns

An item is the least part of a pattern: a character, an escape, or a sign with a meaning of its own.
Patterns match texts only, never bytes that are part of a character. An item that takes no notice
of Unicode must therefore not ask for anything beyond ASCII.
-/

namespace InfobaseGateway.Text.Pattern

/-- How a pattern is read from some place on. -/
structure Mode where
  /-- Whether classes and word boundaries are those of Unicode, and not of ASCII. -/
  unicode : Bool
  /-- Whether white space and comments have no meaning. -/
  spaced : Bool

namespace Mode

/-- The mode in which every pattern begins. -/
def plain : Mode :=
  ⟨true, false⟩

/-- The mode after flags, which are switched off from a hyphen on. -/
def switched (mode : Mode) (flags : List Char) : Mode :=
  let (on, off) := flags.span (· ≠ '-')
  ⟨(mode.unicode || on.contains 'u') && !off.contains 'u',
    (mode.spaced || on.contains 'x') && !off.contains 'x'⟩

/-- Passes over white space and comments, which begin with a hash and end with the line. -/
def pastSpace (inComment : Bool) : List Char → List Char
  | [] => []
  | c :: rest =>
    if inComment then pastSpace (c ≠ '\n') rest
    else if c = '#' then pastSpace true rest
    else if isWhite c then pastSpace false rest
    else c :: rest

/-- Passes over what has no meaning. -/
def skip (mode : Mode) (text : List Char) : List Char :=
  if mode.spaced then pastSpace false text else text

/-- The character that is taken to come next. The search looks into a comment, though not beyond
the first character of it that is not white. -/
def ahead? (mode : Mode) (text : List Char) : Option Char :=
  if mode.spaced then
    let found := text.dropWhile isWhite
    let found := if found.head? = some '#' then (found.drop 1).dropWhile isWhite else found
    found.head?.or text.head?
  else text.head?

end Mode

/-- What a character or an escape in a pattern stands for. -/
inductive Item
  /-- A character. It is `coded` if two hexadecimal digits give it, which without Unicode make a
  byte. -/
  | literal (c : Char) (coded : Bool)
  /-- Digits, white space or the characters of words, or all but these. -/
  | kind (negated : Bool)
  /-- A category of Unicode. -/
  | category
  /-- Any character. -/
  | any
  | anchor
  | wordBoundary

namespace Item

def isAllowed (mode : Mode) : Item → Bool
  | literal c coded => mode.unicode || !coded || c.toNat < 0x80
  | kind negated => mode.unicode || !negated
  | category => mode.unicode
  | any => mode.unicode
  | _ => true

def isMember (mode : Mode) : Item → Bool
  | literal c _ => mode.unicode || c.toNat < 0x80
  | kind negated => mode.unicode || !negated
  | category => mode.unicode
  | _ => false

/-- Whether two items are the ends of a range. -/
def isRange (mode : Mode) : Item → Item → Bool
  | literal first _, literal last _ => first ≤ last && (mode.unicode || last.toNat < 0x80)
  | _, _ => false

/-- Reads as many digits as stated. -/
def digits? (mode : Mode) : (count : Nat) → List Char → Option (List Char × List Char)
  | 0, text => some ([], text)
  | count + 1, text =>
    match mode.skip text with
    | [] => none
    | c :: rest => (digits? mode count rest).map fun (digits, rest) => (c :: digits, rest)

/-- Reads a character that is given by its number, in as many digits as stated. -/
def ofHex? (mode : Mode) (count : Nat) (text : List Char) : Option (Item × List Char) := do
  let (digits, rest) ← digits? mode count text
  return (literal (← Config.Number.charOfHex? digits) (count = 2), rest)

/-- Reads an escape, after the backslash. -/
def escaped? (mode : Mode) : List Char → Option (Item × List Char)
  | [] => none
  | 'x' :: rest => ofHex? mode 2 rest
  | 'u' :: rest => ofHex? mode 4 rest
  | 'U' :: rest => ofHex? mode 8 rest
  | c :: rest =>
    if c = 'p' || c = 'P' then
      match mode.skip rest with
      | letter :: rest =>
        if letter.toLower ∈ "lmnpszc".toList then some (category, rest) else none
      | [] => none
    else if c ∈ "dsw".toList then some (kind false, rest)
    else if c ∈ "DSW".toList then some (kind true, rest)
    else if c = 'A' || c = 'z' then some (anchor, rest)
    else if c ∈ "bB<>".toList then some (wordBoundary, rest)
    else
      match [('a', '\x07'), ('f', '\x0c'), ('t', '\t'), ('n', '\n'), ('r', '\x0d'),
        ('v', '\x0b')].lookup c with
      | some control => some (literal control false, rest)
      | none => if c.toNat < 0x80 && !c.isAlphanum then some (literal c false, rest) else none

/-- Reads an item in brackets, where only the backslash has a meaning of its own. -/
def member? (mode : Mode) : List Char → Option (Item × List Char)
  | [] => none
  | '\\' :: rest => escaped? mode rest
  | c :: rest => some (literal c false, rest)

/-- Reads an item outside of brackets. -/
def read? (mode : Mode) (text : List Char) : Option (Item × List Char) :=
  match text with
  | '.' :: rest => some (any, rest)
  | '^' :: rest => some (anchor, rest)
  | '$' :: rest => some (anchor, rest)
  | text => member? mode text

end Item

/-- How deep a list of parts is nested that are so deep each. A single part adds nothing. -/
def nested : List Nat → Nat
  | [] => 0
  | [depth] => depth
  | depths => depths.foldl max 0 + 1

end InfobaseGateway.Text.Pattern
