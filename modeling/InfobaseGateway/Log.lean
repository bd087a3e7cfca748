/-!
# Log events

An event has a level, a message and named fields in the order in which they were given. A field
without a value is left out of the event.
-/

namespace InfobaseGateway

/-- How important an event is. -/
inductive Level
  | error
  | warn
  | info
  | debug
  | trace
  deriving DecidableEq

namespace Level

/-- All levels, the most important first. -/
def all : List Level :=
  [error, warn, info, debug, trace]

def name : Level → String
  | error => "ERROR"
  | warn => "WARN"
  | info => "INFO"
  | debug => "DEBUG"
  | trace => "TRACE"

/-- How many levels are at least as important as this one. -/
def rank : Level → Nat
  | error => 1
  | warn => 2
  | info => 3
  | debug => 4
  | trace => 5

end Level

/-- The named fields of an event. -/
abbrev EventFields := List (String × String)

/-- A field that is only there when it has a value. -/
def optionalField (name : String) : Option String → EventFields
  | some value => [(name, value)]
  | none => []

/-- One record of the log. -/
structure Event where
  level : Level
  message : String
  fields : EventFields
  deriving DecidableEq

namespace Event

/-- The value of the first field with the given name. -/
def field? (event : Event) (name : String) : Option String :=
  (event.fields.find? fun field => field.1 = name).map (·.2)

end Event

end InfobaseGateway
