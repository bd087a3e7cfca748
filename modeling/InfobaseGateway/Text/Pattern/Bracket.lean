import InfobaseGateway.Text.Pattern.Item

/-!
# Sets in brackets

A set lists characters, ranges, escapes and further sets. Between two lists may stand an operation,
which is an intersection, a difference or a symmetric difference. What a set holds is of no
importance here, but how deep it is nested is.
-/

namespace InfobaseGateway.Text.Pattern

/-- A set that is read: how deep everything before the last operation is nested, and how deep each
of the members since. -/
structure Bracket where
  before : Option Nat
  members : List Nat

namespace Bracket

def add (bracket : Bracket) (depth : Nat) : Bracket :=
  { bracket with members := depth :: bracket.members }

/-- How deep what stands inside is nested. -/
def content (bracket : Bracket) : Nat :=
  match bracket.before with
  | none => nested bracket.members
  | some depth => nested [depth, nested bracket.members]

def operated (bracket : Bracket) : Bracket :=
  ⟨some bracket.content, []⟩

/-- The names of sets between colons. -/
def names : List String :=
  ["alnum", "alpha", "ascii", "blank", "cntrl", "digit", "graph", "lower", "print", "punct",
    "space", "upper", "word", "xdigit"]

/-- Reads a name between colons and the closing bracket, and says whether a circumflex negates
it. -/
def named? (text : List Char) : Option (Bool × List Char) :=
  match text with
  | ':' :: rest =>
    let negated := rest.head? = some '^'
    let (name, rest) := (if negated then rest.drop 1 else rest).span (· ≠ ':')
    match rest with
    | ':' :: ']' :: rest => if String.ofList name ∈ names then some (negated, rest) else none
    | _ => none
  | _ => none

/-- Reads hyphens, which are members where a set begins. -/
def hyphens (mode : Mode) (bracket : Bracket) : (bound : Nat) → List Char → Bracket × List Char
  | 0, text => (bracket, text)
  | bound + 1, text =>
    match mode.skip text with
    | '-' :: rest => hyphens mode (bracket.add 0) bound rest
    | text => (bracket, text)

/-- Reads how a set begins, after its bracket. A closing bracket that comes first is a member. A
negated set holds more than ASCII, which only Unicode allows. -/
def opened? (mode : Mode) (text : List Char) : Option (Bracket × List Char) :=
  let text := mode.skip text
  let negated := text.head? = some '^'
  if negated && !mode.unicode then none
  else
    let text := if negated then text.drop 1 else text
    match hyphens mode ⟨none, []⟩ text.length text with
    | (⟨none, []⟩, ']' :: rest) => some (⟨none, [0]⟩, rest)
    | found => some found

/-- Passes over a single character, an escape or a range. A hyphen is a member if nothing comes
after it that can end a range. -/
def pastMember? (mode : Mode) (text : List Char) : Option (List Char) := do
  let (first, rest) ← Item.member? mode text
  let rest := mode.skip rest
  let single := if first.isMember mode then some rest else none
  match rest with
  | '-' :: after =>
    let next := mode.ahead? after
    if next = some ']' || next = some '-' then single
    else
      let (last, rest) ← Item.member? mode (mode.skip after)
      if first.isRange mode last then some rest else none
  | _ => single

/-- Reads a set to its closing bracket, and those around it. Gives how deep the outermost one is
nested, and what follows it. -/
def readFrom (mode : Mode) : (bound : Nat) → Bracket → (outer : List Bracket) → List Char →
    Option (Nat × List Char)
  | 0, _, _, _ => none
  | bound + 1, bracket, outer, text =>
    match mode.skip text with
    | [] => none
    | '[' :: rest =>
      match named? rest with
      | some (negated, rest) =>
        if negated && !mode.unicode then none else readFrom mode bound (bracket.add 0) outer rest
      | none => do
        let (inner, rest) ← opened? mode rest
        readFrom mode bound inner (bracket :: outer) rest
    | ']' :: rest =>
      match outer with
      | [] => some (bracket.content + 1, rest)
      | next :: outer => readFrom mode bound (next.add (bracket.content + 1)) outer rest
    | '&' :: '&' :: rest => readFrom mode bound bracket.operated outer rest
    | '-' :: '-' :: rest => readFrom mode bound bracket.operated outer rest
    | '~' :: '~' :: rest => readFrom mode bound bracket.operated outer rest
    | text => do
      let rest ← pastMember? mode text
      readFrom mode bound (bracket.add 0) outer rest

/-- Reads a set, after its bracket. -/
def read? (mode : Mode) (text : List Char) : Option (Nat × List Char) := do
  let (bracket, rest) ← opened? mode text
  readFrom mode (text.length + 1) bracket [] rest

end Bracket

end InfobaseGateway.Text.Pattern
