import InfobaseGateway.Config.Number
import InfobaseGateway.Text.Blank
import InfobaseGateway.Text.Encoding
import InfobaseGateway.Text.Pattern

/-!
# Directives of log filters

A directive says how many levels pass for which events: those whose target starts with a text, that
happen inside a span of some name, and that have some fields. All parts may be left out, as in
`level`, `target`, `target=level` and `target[span\{field=value\}]=level`.
-/

namespace InfobaseGateway

/-- Why a text is no directive. -/
inductive DirectiveFault
  | malformed
  | level
  /-- The value of a field is no pattern. -/
  | pattern
  /-- The value of a field is a pattern with a word boundary, which has no meaning here. -/
  | wordBoundary
  deriving DecidableEq

def DirectiveFault.message : DirectiveFault → String
  | malformed => "invalid filter directive"
  | level =>
    "error parsing level filter: expected one of \"off\", \"error\", \"warn\", \"info\", "
      ++ "\"debug\", \"trace\", or a number 0-5"
  | pattern => "invalid field filter: error building NFA"
  | wordBoundary =>
    "invalid field filter: unsupported regex feature for DFAs: cannot build DFAs for regexes with "
      ++ "Unicode word boundaries; switch to ASCII word boundaries, or heuristically enable "
      ++ "Unicode word boundaries or use a different regex engine"

/-- A field that an event has to have, with some value if the condition is `valued`. -/
structure FieldCondition where
  name : String
  valued : Bool
  deriving DecidableEq

namespace FieldCondition

/-- Whether a value is a number, which is compared as such. -/
def isNumber (value : String) : Bool :=
  Config.Number.isDecimal value.toList
    || String.ofList ((Config.Number.unsigned value.toList).map Char.toLower)
      ∈ ["inf", "infinity", "nan"]

/-- Reads a condition: a name, and after an equals sign a number or a pattern. -/
def parse (text : String) : Except DirectiveFault FieldCondition :=
  match text.splitOn "=" with
  | name :: value :: _ =>
    if isNumber value then .ok ⟨name, true⟩
    else
      match Text.Pattern.ofText? value with
      | some pattern => if pattern.boundary then .error .wordBoundary else .ok ⟨name, true⟩
      | none => .error .pattern
  | name :: [] => .ok ⟨name, false⟩
  | [] => .error .malformed

end FieldCondition

/-- A directive. Its rank is the number of levels that pass, the most important first. -/
structure Directive where
  target : Option String
  span : Option String
  fields : List FieldCondition
  rank : Nat
  deriving DecidableEq

namespace Directive

/-- The directive that lets everything pass. -/
def everything : Directive :=
  ⟨none, none, [], 5⟩

/-- The number of levels that a word stands for, in any case. No word stands for errors only. -/
def rank? (word : String) : Option Nat :=
  let digits := if word.toList.head? = some '+' then word.toList.drop 1 else word.toList
  match (Config.Number.ofDigits? 10 digits).filter (· ≤ 5) with
  | some rank => some rank
  | none =>
    [("", 1), ("off", 0), ("error", 1), ("warn", 2), ("info", 3), ("debug", 4), ("trace", 5)].lookup
      (String.ofList (word.toList.map Char.toLower))

/-- Where the reading of a directive has come to. The numbers are the byte at which a part
begins. -/
inductive Stage
  | start
  /-- In a word that is a level or a target. -/
  | word (start : Nat)
  | span (start : Nat)
  | field (start : Nat)
  | fields
  | afterSpan
  | level (start : Nat)

/-- Whether a character may begin a level or a target. -/
def isWordStart (c : Char) : Bool :=
  c = ':' || c = '-' || c = '_' || Text.isAlphanumeric c

/-- The part of a text from one byte up to another. -/
def part (text : List Char) (start stop : Nat) : String :=
  String.ofList (Text.takeBytes (stop - start) (Text.dropBytes start text))

/-- Reads the character at a byte. -/
def step (text : List Char) (index : Nat) (c : Char) (directive : Directive) :
    Stage → Except DirectiveFault (Stage × Directive)
  | .start =>
    if c = '[' then .ok (.span (index + 1), directive)
    else if isWordStart c then .ok (.word index, directive)
    else .error .malformed
  | .word start =>
    let found := { directive with target := some (part text start index) }
    if c = '=' then .ok (.level (index + 1), found)
    else if c = '[' then .ok (.span (index + 1), found)
    else .ok (.word start, directive)
  | .span start =>
    let name := part text start index
    if c = ']' then .ok (.afterSpan, { directive with span := some name })
    else if c = '\x7b' then
      .ok (.field (index + 1),
        { directive with span := if name = "" then none else some name })
    else .ok (.span start, directive)
  | .field start =>
    if c = '\x7d' then do
      let condition := part text start index
      if condition = "" then .error .malformed
      else
        let field ← FieldCondition.parse condition
        return (.fields, { directive with fields := directive.fields ++ [field] })
    else .ok (.field start, directive)
  | .fields => if c = ']' then .ok (.afterSpan, directive) else .error .malformed
  | .afterSpan => if c = '=' then .ok (.level (index + 1), directive) else .error .malformed
  | .level start => .ok (.level start, directive)

/-- Reads what is left of a directive, from a byte on. -/
def readFrom (text : List Char) (index : Nat) (stage : Stage) (directive : Directive) :
    List Char → Except DirectiveFault (Stage × Directive)
  | [] => .ok (stage, directive)
  | c :: rest => do
    let (stage, directive) ← step text index c directive stage
    readFrom text (index + c.utf8Size) stage directive rest

/-- The directive whose reading ends at a stage. -/
def finish (text : List Char) (directive : Directive) :
    Stage → Except DirectiveFault Directive
  | .word start =>
    let word := String.ofList (Text.dropBytes start text)
    if word = "" then .ok { directive with target := none, rank := 5 }
    else
      match rank? word with
      | some rank => .ok { directive with target := none, rank := rank }
      | none => .ok { directive with target := some word, rank := 5 }
  | .level start =>
    let word := String.ofList (Text.dropBytes start text)
    if word = "" then .ok directive
    else
      match rank? word with
      | some rank => .ok { directive with rank := rank }
      | none => .error .level
  | .afterSpan => .ok directive
  | _ => .error .malformed

/-- Reads a directive. White space around it is passed over, but the parts are then those that
lie as far from the start of the whole text. -/
def parse (text : String) : Except DirectiveFault Directive := do
  let (stage, directive) ←
    readFrom text.toList 0 .start everything (Text.trim text).toList
  finish text.toList directive stage

/-- Whether a directive decides about events outside of all spans. -/
def isStatic (directive : Directive) : Bool :=
  directive.span.isNone && directive.fields.all fun field => !field.valued

/-- Whether a directive is about a target, and about events that have the given fields. Without
fields, it is not asked for them. -/
def concerns (directive : Directive) (target : String) (fields : Option (List String)) : Bool :=
  directive.isStatic
    && directive.target.all (fun start => start.toList.isPrefixOf target.toList)
    && fields.all fun names => directive.fields.all fun field => field.name ∈ names

/-- The order of directives by how much they ask for: the longest target, then the most fields, then
the greatest names of fields. -/
def order (a b : Directive) : Ordering :=
  (compare (a.target.map String.utf8ByteSize) (b.target.map String.utf8ByteSize)).then <|
    (compare a.fields.length b.fields.length).then
      (compare (a.fields.map (·.name)) (b.fields.map (·.name)))

end Directive

end InfobaseGateway
