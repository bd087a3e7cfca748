import InfobaseGateway.Config.Decode
import InfobaseGateway.Log
import InfobaseGateway.Log.Directive
import InfobaseGateway.Text.Quoted

/-!
# Log filters

A filter lists directives, each of which lets events through up to a level. The one that asks for
the most decides about an event, and a later directive replaces an earlier one that asks for the
same.
-/

namespace InfobaseGateway

namespace Level

def filterName : Level → String
  | error => "error"
  | warn => "warn"
  | info => "info"
  | debug => "debug"
  | trace => "trace"

def view : Level → String
  | error => "Error"
  | warn => "Warn"
  | info => "Info"
  | debug => "Debug"
  | trace => "Trace"

def decode (tree : ConfigTree) : Config.Decoded Level := do
  let (name, content) ← Config.Decode.variant (all.map filterName) tree
  match all.find? fun level => level.filterName = name, content with
  | some level, none => .ok level
  | some level, some .null => .ok level
  | _, _ => (Config.fail .invalidType : Config.Decoded Level).under name

end Level

/-- A level that an operator chose for the events of a component. -/
structure LogFilter where
  component : String
  level : Level
  deriving DecidableEq

namespace LogFilter

def fields : Config.Fields LogFilter :=
  mk <$> .required "crate_name" Config.Decode.text <*> .required "filter_level" Level.decode

/-- Whether nothing in the tree of a log filter would be passed over: a list has as many items as
there are members, and a level with content is given once. -/
def isExact : ConfigTree → Bool
  | .list [_, .dict levels] => levels.length = 1
  | .list members => members.length = 2
  | .dict entries =>
    match entries.lookup "filter_level" with
    | some (.dict levels) => levels.length = 1
    | _ => true
  | _ => true

/-- Reads a list of log filters in which nothing is passed over. -/
def readExact? (tree : ConfigTree) : Option (List LogFilter) :=
  match tree with
  | .list filters =>
    if filters.all isExact then (Config.Decode.list fields.decode tree).toOption else none
  | _ => none

def toTree (filter : LogFilter) : ConfigTree :=
  .dict [("crate_name", .text filter.component),
    ("filter_level", .text filter.level.filterName)]

def view (filter : LogFilter) : String :=
  Text.showRecord "LogFilter"
    [("crate_name", Text.quote filter.component), ("filter_level", filter.level.view)]

def directive (filter : LogFilter) : String :=
  filter.component ++ "=" ++ filter.level.filterName

/-- The components whose events are let through in full detail. -/
def gatewayComponents : List String :=
  ["ras_config", "ras_error", "ras_gateway", "ras_tracing", "ras_types"]

/-- The directives in force when the environment gives none: errors from everywhere, full detail
from the gateway, and then the chosen filters. -/
def defaultDirectives (filters : List LogFilter) : String :=
  ",".intercalate
    (["error", "opentelemetry_sdk=info"] ++ gatewayComponents.map (· ++ "=trace")
      ++ filters.map directive)

end LogFilter

/-- The directives in force. -/
abbrev Filter := List Directive

namespace Filter

/-- The parts of a directive text. -/
def parts (text : String) : List String :=
  (text.splitOn ",").filter fun part => part ≠ ""

/-- The parts of a directive text that are no directives, and what is wrong with them. -/
def rejected (text : String) : List (String × DirectiveFault) :=
  (parts text).filterMap fun part =>
    match Directive.parse part with
    | .ok _ => none
    | .error fault => some (part, fault)

/-- Reads directives, passing over those that are none. Without any, errors are let through. -/
def parse (text : String) : Filter :=
  match (parts text).filterMap fun part => (Directive.parse part).toOption with
  | [] => [{ Directive.everything with rank := 1 }]
  | directives => directives

/-- The directive that decides about a target and fields: of those that concern it, the last one
that asks for the most. -/
def deciding? (filter : Filter) (target : String) (fields : Option (List String)) :
    Option Directive :=
  (filter.filter (·.concerns target fields)).foldl (fun best directive =>
    match best with
    | none => some directive
    | some other => if (directive.order other).isGE then some directive else some other) none

/-- How many levels pass for a target and fields. -/
def rankFor (filter : Filter) (target : String) (fields : Option (List String)) : Nat :=
  ((filter.deciding? target fields).map (·.rank)).getD 0

/-- Whether an event of a target passes. -/
def passes (filter : Filter) (target : String) (event : Event) : Bool :=
  event.level.rank ≤ filter.rankFor target (some ("message" :: event.fields.map (·.1)))

/-- The filter that the environment asks for, or else the default one with the chosen filters. -/
def global (fromEnvironment : Option String) (filters : List LogFilter) : Filter :=
  parse (fromEnvironment.getD (LogFilter.defaultDirectives filters))

end Filter

end InfobaseGateway
