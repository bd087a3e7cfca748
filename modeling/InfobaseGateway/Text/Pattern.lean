import InfobaseGateway.Text.Alphanumeric
import InfobaseGateway.Text.Pattern.Bracket

/-!
# Patterns

Which texts are regular expressions. A pattern is made of items, sets in brackets, groups,
alternatives and repetitions. A repetition count would need a closing brace, which the texts that
come here do not hold, so an opening one has no meaning outside a set.
-/

namespace InfobaseGateway.Text

namespace Pattern

/-- How a parenthesis begins. -/
inductive Opening
  /-- It opens a group, which has the flags and may have a name. -/
  | group (name : Option (List Char)) (flags : List Char)
  /-- It sets the flags for what follows. -/
  | flags (flags : List Char)

/-- Whether a text can name a group. -/
def isGroupName : List Char → Bool
  | [] => false
  | c :: rest =>
    (c = '_' || isAlphabetic c) && rest.all fun c => isAlphanumeric c || c ∈ "_.[]".toList

/-- Whether a text switches flags on and, after a hyphen, off. No flag comes twice. -/
def areFlags (text : List Char) : Bool :=
  text.all (· ∈ "imsUuxR-".toList) && text.eraseDups.length = text.length
    && text.getLast? ≠ some '-'

/-- Reads the name of a group and the bracket after it. -/
def named? (text : List Char) : Option (Opening × List Char) :=
  let (name, rest) := text.span (· ≠ '>')
  if isGroupName name && !rest.isEmpty then some (.group (some name) [], rest.drop 1) else none

/-- Reads what follows a parenthesis. -/
def opening? : List Char → Option (Opening × List Char)
  | '?' :: 'P' :: '<' :: rest => named? rest
  | '?' :: '<' :: rest => named? rest
  | '?' :: rest =>
    let (flags, rest) := rest.span fun c => c ≠ ')' && c ≠ ':'
    match rest with
    | ':' :: rest => if areFlags flags then some (.group none flags, rest) else none
    | ')' :: rest =>
      if areFlags flags && !flags.isEmpty then some (.flags flags, rest) else none
    | _ => none
  | rest => some (.group none [], rest)

/-- A part of a sequence: how deep it is nested, and whether it can be repeated. -/
structure Part where
  depth : Nat
  repeatable : Bool

/-- A group that is read: the mode it has come to, how deep each of its finished alternatives is
nested, and the parts of the current one, the last first. -/
structure Group where
  mode : Mode
  branches : List Nat
  parts : List Part

namespace Group

/-- A group of which nothing has been read. -/
def empty (mode : Mode) : Group :=
  ⟨mode, [], []⟩

/-- Adds a part that can be repeated. -/
def add (group : Group) (depth : Nat) : Group :=
  { group with parts := ⟨depth, true⟩ :: group.parts }

/-- Sets flags for what follows. They are a part, though none that can be repeated. -/
def switched (group : Group) (flags : List Char) : Group :=
  { group with mode := group.mode.switched flags, parts := ⟨0, false⟩ :: group.parts }

/-- Repeats the last part. -/
def repeated? (group : Group) : Option Group :=
  match group.parts with
  | ⟨depth, true⟩ :: parts => some { group with parts := ⟨depth + 1, true⟩ :: parts }
  | _ => none

/-- Ends an alternative. The mode stays as it is. -/
def branched (group : Group) : Group :=
  { group with branches := nested (group.parts.map (·.depth)) :: group.branches, parts := [] }

/-- How deep what stands inside is nested. -/
def content (group : Group) : Nat :=
  nested group.branched.branches

end Group

/-- How deep a pattern may be nested. -/
def depthLimit : Nat :=
  250

end Pattern

/-- How far a pattern has been read: the names of its groups, the group that is open, those around
it, and whether a word boundary of Unicode has been asked for. -/
structure Pattern where
  names : List (List Char)
  group : Pattern.Group
  outer : List Pattern.Group
  boundary : Bool

namespace Pattern

def opened (pattern : Pattern) (name : Option (List Char)) (flags : List Char) : Pattern :=
  { pattern with
    names := name.toList ++ pattern.names
    group := .empty (pattern.group.mode.switched flags)
    outer := pattern.group :: pattern.outer }

/-- Closes a group, with which its flags end. -/
def closed? (pattern : Pattern) : Option Pattern :=
  match pattern.outer with
  | [] => none
  | next :: outer =>
    some { pattern with group := next.add (pattern.group.content + 1), outer := outer }

/-- Whether a pattern is complete, and not nested too deep. -/
def isComplete (pattern : Pattern) : Bool :=
  pattern.outer.isEmpty && pattern.group.content ≤ depthLimit

/-- Reads a pattern to its end. -/
def readFrom : (bound : Nat) → Pattern → List Char → Option Pattern
  | 0, _, _ => none
  | bound + 1, pattern, text =>
    let mode := pattern.group.mode
    match mode.skip text with
    | [] => if pattern.isComplete then some pattern else none
    | '(' :: rest => do
      match ← opening? (mode.skip rest) with
      | (.flags flags, rest) =>
        readFrom bound { pattern with group := pattern.group.switched flags } rest
      | (.group name flags, rest) =>
        if name.any (· ∈ pattern.names) then none
        else readFrom bound (pattern.opened name flags) rest
    | ')' :: rest => do readFrom bound (← pattern.closed?) rest
    | '|' :: rest => readFrom bound { pattern with group := pattern.group.branched } rest
    | '\x7b' :: _ => none
    | '[' :: rest => do
      let (depth, rest) ← Bracket.read? mode rest
      readFrom bound { pattern with group := pattern.group.add depth } rest
    | c :: rest =>
      if c = '*' || c = '+' || c = '?' then do
        let group ← pattern.group.repeated?
        readFrom bound { pattern with group := group }
          (if rest.head? = some '?' then rest.drop 1 else rest)
      else do
        let (item, rest) ← Item.read? mode (c :: rest)
        if item.isAllowed mode then
          readFrom bound
            { pattern with
              group := pattern.group.add 0
              boundary := pattern.boundary || mode.unicode && item matches .wordBoundary }
            rest
        else none

def ofText? (text : String) : Option Pattern :=
  readFrom (text.length + 1) ⟨[], .empty .plain, [], false⟩ text.toList

end Pattern

end InfobaseGateway.Text
