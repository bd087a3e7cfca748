import InfobaseGateway.Config.Number
import InfobaseGateway.Config.Tree
import InfobaseGateway.Text.Blank
import InfobaseGateway.Text.Encoding

/-!
# Settings from the environment

A variable whose name begins with `RAS_`, in any case, sets the value at the path that the rest of
its name spells: two underscores or a point lead one level deeper. Values are truth values, numbers,
lists in brackets, dictionaries in braces, quoted characters and quoted texts; whatever is none of
these is a text.
-/

namespace InfobaseGateway.Config

namespace EnvironmentValue

/-- The white space that is passed over around a value and between its parts. -/
def isSpace (c : Char) : Bool :=
  c = ' ' || c = '\t' || c = '\n' || c = '\x0c' || c = '\x0d'

def skip (text : List Char) : List Char :=
  text.dropWhile isSpace

/-- Whether a character separates the parts of lists and dictionaries. -/
def isSeparator (c : Char) : Bool :=
  c = ',' || c = '\x7b' || c = '\x7d' || c = '[' || c = ']'

/-- Whether a character may stand in a key without quotes. -/
def isKeyChar (c : Char) : Bool :=
  c.isAlphanum || c = '_' || c = '-'

/-- The value of a word: a number, or else a text. -/
def ofWord (word : String) : ConfigTree :=
  if word.toList.contains '.' && Number.isDecimal word.toList then .decimal word
  else
    match Number.integer? word.toList with
    | some n => .integer n
    | none => .text word

/-- Whether a character may stand between quotes. -/
def isQuotable (c : Char) : Bool :=
  c = '\t' || 0x20 ≤ c.toNat && c.toNat ≠ 0x7f

/-- What stands before the quote that ends a text, as it is written, and what follows that quote. -/
def untilQuote : List Char → Option (List Char × List Char)
  | [] => none
  | '"' :: rest => some ([], rest)
  | '\\' :: c :: rest =>
    if isQuotable c then
      (untilQuote rest).map fun (text, rest) => ('\\' :: c :: text, rest)
    else none
  | c :: rest =>
    if isQuotable c then (untilQuote rest).map fun (text, rest) => (c :: text, rest) else none

/-- The text that is written with escapes. -/
def unescaped : List Char → Option (List Char)
  | [] => some []
  | '\\' :: 'u' :: a :: b :: c :: d :: rest => do
    let char ← Number.charOfHex? [a, b, c, d]
    return char :: (← unescaped rest)
  | '\\' :: 'U' :: a :: b :: c :: d :: e :: f :: g :: h :: rest => do
    let char ← Number.charOfHex? [a, b, c, d, e, f, g, h]
    return char :: (← unescaped rest)
  | '\\' :: escaped :: rest => do
    let char ← [('b', '\x08'), ('t', '\t'), ('n', '\n'), ('f', '\x0c'), ('r', '\x0d'), ('"', '"'),
      ('\\', '\\')].lookup escaped
    return char :: (← unescaped rest)
  | c :: rest => do
    return c :: (← unescaped rest)

/-- The rest of a quoted text, after the quote that opens it, and what follows the text. Of what
stands before the first escape, as many bytes are kept as it has characters. -/
def quoted (text : List Char) : Option (List Char × List Char) := do
  let (written, rest) ← untilQuote text
  let plain := written.takeWhile (· ≠ '\\')
  match written.drop plain.length with
  | [] => return (plain, rest)
  | escaped => return (Text.takeBytes plain.length plain ++ (← unescaped escaped), rest)

/-- Reads the key of a dictionary entry and the equals sign after it. -/
def key (text : List Char) : Option (String × List Char) := do
  let (name, rest) ←
    match skip text with
    | '"' :: rest => quoted rest
    | rest =>
      match rest.span isKeyChar with
      | ([], _) => none
      | found => some found
  match skip rest with
  | '=' :: rest => some (String.ofList name, rest)
  | _ => none

/-- Reads a value between white space. -/
def spaced (read : List Char → Option (ConfigTree × List Char)) (text : List Char) :
    Option (ConfigTree × List Char) :=
  (read (skip text)).map fun (tree, rest) => (tree, skip rest)

mutual

/-- Reads a value and gives what follows it. The bound limits the nesting. -/
def value : (bound : Nat) → List Char → Option (ConfigTree × List Char)
  | 0, _ => none
  | bound + 1, text =>
    match text with
    | 't' :: 'r' :: 'u' :: 'e' :: rest => some (.flag true, rest)
    | 'f' :: 'a' :: 'l' :: 's' :: 'e' :: rest => some (.flag false, rest)
    | '\x7b' :: rest =>
      (entries bound rest).map fun (found, rest) => (.ofEntries found, rest)
    | '[' :: rest => (items bound rest).map fun (found, rest) => (.list found, rest)
    | '"' :: rest => (quoted rest).map fun (found, rest) => (.text (String.ofList found), rest)
    | '\'' :: c :: '\'' :: rest => some (.character c, rest)
    | '\'' :: _ => none
    | rest =>
      let (word, rest) := rest.span fun c => !isSeparator c
      some (ofWord (Text.trim (String.ofList word)), rest)

/-- Reads the items of a list up to its bracket. -/
def items : (bound : Nat) → List Char → Option (List ConfigTree × List Char)
  | 0, _ => none
  | _ + 1, ']' :: rest => some ([], rest)
  | bound + 1, text => do
    let (tree, rest) ← spaced (value bound) text
    match rest with
    | ',' :: rest => do
      let (trees, rest) ← items bound rest
      return (tree :: trees, rest)
    | ']' :: rest => some ([tree], rest)
    | _ => none

/-- Reads the entries of a dictionary up to its brace. -/
def entries : (bound : Nat) → List Char → Option (ConfigEntries × List Char)
  | 0, _ => none
  | _ + 1, '\x7d' :: rest => some ([], rest)
  | bound + 1, text => do
    let (name, rest) ← key text
    let (tree, rest) ← spaced (value bound) rest
    match rest with
    | ',' :: rest => do
      let (others, rest) ← entries bound rest
      return ((name, tree) :: others, rest)
    | '\x7d' :: rest => some ([(name, tree)], rest)
    | _ => none

end

/-- The tree that the value of a variable stands for. White space around a value is passed over, but
what is no value is a text with all the white space that it has. -/
def parse (text : String) : ConfigTree :=
  match spaced (value (text.length + 1)) text.toList with
  | some (tree, []) => tree
  | _ => .text text

end EnvironmentValue

/-- The variables of a process, in order. -/
abbrev Environment := List (String × String)

namespace Environment

/-- What the names of settings begin with. -/
def namePrefix : String :=
  "RAS_"

/-- Writes a point for every two underscores. -/
def pointed : List Char → List Char
  | '_' :: '_' :: rest => '.' :: pointed rest
  | c :: rest => c :: pointed rest
  | [] => []

/-- The path that the name of a variable spells, if it is one of a setting. -/
def path? (name : String) : Option (List String) :=
  let chars := (Text.trim name).toList.map Char.toLower
  let start := namePrefix.toList.map Char.toLower
  if start.isPrefixOf chars then
    let spelled := Text.trim (String.ofList (pointed (chars.drop start.length)))
    let path := (spelled.toList.splitOn '.').map String.ofList
    if path.any (· = "") then none else some path
  else none

/-- The tree of all settings in the environment. Where two variables set the same, the later one
counts. -/
def toTree (environment : Environment) : ConfigTree :=
  environment.foldl (fun tree (name, text) =>
    match path? name with
    | some path => tree.merge (.nest (EnvironmentValue.parse text) path)
    | none => tree) (.dict [])

end Environment

end InfobaseGateway.Config
