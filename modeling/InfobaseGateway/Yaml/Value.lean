import InfobaseGateway.Config.Number
import InfobaseGateway.Config.Tree
import InfobaseGateway.Text.Encoding
import InfobaseGateway.Yaml.Node

/-!
# Values of documents

The configuration tree that a document describes. A plain scalar without a tag is read by its form,
as null, a truth value, a number or else a text; every other scalar is a text, unless a tag of the
core schema says otherwise. A tag that begins with an exclamation mark makes a dictionary of its
name to the value. The keys of a configuration are scalars, and a key means its text.
-/

namespace InfobaseGateway.Yaml

open Config

namespace Scalar

/-- Whether a scalar is a word for null. -/
def isNullWord (text : List Char) : Bool :=
  String.ofList text ∈ ["~", "null", "Null", "NULL"]

/-- The truth value of a scalar. -/
def flag? (text : List Char) : Option Bool :=
  match String.ofList text with
  | "true" | "True" | "TRUE" => some true
  | "false" | "False" | "FALSE" => some false
  | _ => none

/-- Whether a scalar, its sign aside, is made of digits after a zero, which makes it no number. -/
def isZeroLed (text : List Char) : Bool :=
  match Number.unsigned text with
  | '0' :: digit :: digits => (digit :: digits).all Char.isDigit
  | _ => false

/-- Reads digits with the mark of their base. -/
def magnitude? : List Char → Option Nat
  | '0' :: 'x' :: digits => Number.ofDigits? 16 digits
  | '0' :: 'o' :: digits => Number.ofDigits? 8 digits
  | '0' :: 'b' :: digits => Number.ofDigits? 2 digits
  | digits => if isZeroLed digits then none else Number.ofDigits? 10 digits

/-- The integer of a scalar, which has at most 128 bits. -/
def integer? : List Char → Option Int
  | '-' :: digits =>
    ((magnitude? digits).filter (· ≤ Nat.pow 2 127)).map fun n => -(n : Int)
  | '+' :: digits => ((magnitude? digits).filter (· < Nat.pow 2 128)).map Int.ofNat
  | digits => ((magnitude? digits).filter (· < Nat.pow 2 128)).map Int.ofNat

/-- Whether a scalar is a decimal. -/
def isDecimal (text : List Char) : Bool :=
  Number.isFiniteDecimal text
    || String.ofList (Number.unsigned text) ∈ [".inf", ".Inf", ".INF"]
    || String.ofList text ∈ [".nan", ".NaN", ".NAN"]

def plainTree (text : List Char) : ConfigTree :=
  if text.isEmpty || isNullWord text then .null
  else
    match flag? text, integer? text with
    | some flag, _ => .flag flag
    | none, some n => .integer n
    | none, none =>
      if !isZeroLed text && isDecimal text then .decimal (String.ofList text)
      else .text (String.ofList text)

def untagged (style : ScalarStyle) (text : List Char) : ConfigTree :=
  if style = .plain then plainTree text else .text (String.ofList text)

/-- The part of a tag of the core schema after the address of the schema. -/
def coreType? (tag : TagText) : Option String :=
  (textOfUtf8? tag).bind fun tag =>
    ["null", "bool", "int", "float"].find? fun type => tag = "tag:yaml.org,2002:" ++ type

/-- The tree of a scalar with a tag that has no name. A tag of the core schema has to fit the
text. -/
def tagged? (tag : TagText) (style : ScalarStyle) (text : List Char) : Option ConfigTree :=
  match coreType? tag with
  | some "null" => if isNullWord text then some .null else none
  | some "bool" => (flag? text).map .flag
  | some "int" => (integer? text).map .integer
  | some _ => if isDecimal text then some (.decimal (String.ofList text)) else none
  | none =>
    if tag.head? = some 0x21 then some (untagged style text)
    else some (.text (String.ofList text))

end Scalar

namespace TagText

/-- The name of a tag that begins with an exclamation mark, which the mark by itself is too. -/
def name? : TagText → Option String
  | 0x21 :: octet :: octets => textOfUtf8? (octet :: octets)
  | [0x21] => some "!"
  | _ => none

end TagText

namespace Document

/-- The key of a dictionary that holds a value together with its provenance. -/
def valueKey : String :=
  "___figment_value_value"

/-- The key of the provenance. -/
def provenanceKey : String :=
  "___figment_value_id"

/-- The tree of a dictionary. A value that stands there with its provenance is the whole tree. -/
def ofAnnotated (entries : ConfigEntries) : ConfigTree :=
  match entries.reverse.lookup valueKey with
  | some tree => tree
  | none => .ofEntries (entries.filter fun entry => entry.1 ≠ provenanceKey)

/-- How many sequences and mappings may lie in each other. -/
def nestingLimit : Nat :=
  128

/-- Finds values, counting the references that have been followed. -/
abbrev Evaluation := StateT Nat Option

/-- The node that a node stands for. References may be followed a hundred times as often as the
document is large. -/
def follow (document : Document) (node : Node) : Evaluation Node := do
  match node with
  | .reference _ =>
    modify (· + 1)
    if 100 * document.size < (← get) then failure
    StateT.lift (document.target? node)
  | node => return node

/-- The text of a key. -/
def key (document : Document) (node : Node) : Evaluation String := do
  match ← document.follow node with
  | .scalar _ _ text => return String.ofList text
  | _ => failure

/-- Whether a tree is a provenance, which is a word without a sign. -/
def isProvenance : ConfigTree → Bool
  | .integer n => 0 ≤ n && n < UInt64.size
  | _ => false

/-- A tree under the name of its tag, if it has one. -/
def underName (tag : Option TagText) (tree : ConfigTree) : ConfigTree :=
  match tag.bind TagText.name? with
  | some name => .dict [(name, tree)]
  | none => tree

/-- The tree of a scalar. Sequences and mappings that lie too deep have none. -/
def leaf : Node → Option ConfigTree
  | .scalar tag style text =>
    match tag, tag.bind TagText.name? with
    | some tag, none => Scalar.tagged? tag style text
    | tag, _ => some (underName tag (Scalar.untagged style text))
  | _ => none

/-- The tree of a node that lies so deep that `depth` more sequences and mappings may begin. -/
def tree (document : Document) : (depth : Nat) → Node → Evaluation ConfigTree
  | 0, node => do
    StateT.lift (leaf (← document.follow node))
  | depth + 1, node => do
    match ← document.follow node with
    | .sequence tag items =>
      let trees ← items.mapM (document.tree depth)
      return underName tag (.list trees)
    | .mapping tag nodes =>
      let entries ← nodes.mapM fun (key, value) => do
        let name ← document.key key
        let tree ← document.tree depth value
        if name = provenanceKey && !isProvenance tree then failure
        return (name, tree)
      return underName tag (ofAnnotated entries)
    | node => StateT.lift (leaf node)

/-- The dictionary of settings that a document describes. An empty text in place of a dictionary is
an empty one. -/
def settings? (document : Document) : Option ConfigTree :=
  match document.root with
  | .scalar _ _ [] => some (.dict [])
  | .mapping _ nodes =>
    let entries := nodes.mapM fun (key, value) => do
      let name ← document.key key
      return (name, ← document.tree (nestingLimit - 1) value)
    (entries.run 0).map fun (entries, _) => .ofEntries entries
  | _ => none

end Document

/-- The dictionary of settings that a text holds. -/
def read? (text : String) : Option ConfigTree :=
  (Document.read? text).bind Document.settings?

end InfobaseGateway.Yaml
