import InfobaseGateway.ErrorCode
import InfobaseGateway.Message.Audit
import InfobaseGateway.Operation.Program

/-!
# The chain of stages around a handler

Every call passes through a list of stages before it reaches its handler, and back through them
afterwards. A stage sees the call, may answer it without running the rest, and may change the result
on the way back. Stages that protect credentials come before stages that observe.
-/

namespace InfobaseGateway

/-- What a stage is for. -/
inductive StageKind
  | security
  | observability
  | other
  deriving DecidableEq

/-- A message of any type, as stages see it. -/
structure MessageView where
  schema : Schema
  record : Record schema.fields

def MessageView.ofMessage {α : Type} [Message α] (message : α) : MessageView :=
  ⟨Message.schema α, Message.toRecord message⟩

/-- What stages see of a call: a single request, which may have a message, or a stream. -/
inductive CallKind
  | unary (request : Option MessageView)
  | stream (fromClient fromServer : Bool)

/-- A call on its way to the handler. -/
structure Call where
  method : String
  kind : CallKind

/-- Whether the rest of the chain succeeded, without its value. -/
abbrev Passage : Type :=
  Except Status Unit

/-- A stage of the chain. -/
structure Stage where
  name : String
  kind : StageKind
  /-- The events on the way to the handler. -/
  entering : Call → List Event
  /-- The answer of a stage that does not run the rest. -/
  shortcut : Call → Option Passage
  /-- The events on the way back, given the result of the rest and the milliseconds that it took. -/
  leaving : Call → Passage → Nat → List Event
  /-- What becomes of the result of the rest. -/
  result : Call → Passage → Passage

/-- A stage that observes is registered before a stage that protects. -/
structure ChainOrderError where
  observability : String
  security : String
  deriving DecidableEq

def ChainOrderError.message (error : ChainOrderError) : String :=
  "observability stage " ++ error.observability ++ " is registered before security stage "
    ++ error.security

/-- A chain in the wrong order is a mistake of whoever set it up. -/
def ChainOrderError.code (_ : ChainOrderError) : ErrorCode :=
  .invalidArgument

/-- The first observing stage and the first protecting stage after it, given the name of an
observing stage before the list if there is one. -/
def misorderAfter : Option String → List Stage → Option ChainOrderError
  | _, [] => none
  | seen, stage :: stages =>
    match stage.kind, seen with
    | .observability, none => misorderAfter (some stage.name) stages
    | .security, some observability => some ⟨observability, stage.name⟩
    | _, _ => misorderAfter seen stages

/-- Checks the order of the stages of a chain. -/
def checkOrder (stages : List Stage) : Except ChainOrderError (List Stage) :=
  match misorderAfter none stages with
  | some error => .error error
  | none => .ok stages

namespace Chain

/-- The milliseconds between two readings of the clock. -/
def millisBetween (start stop : Instant) : Nat :=
  (stop.nanosSince start / 1000000).toNat

/-- Drops the value of a result. -/
def passage {α : Type} (result : Except Status α) : Passage :=
  result.map fun _ => ()

/-- What a call yields when the outermost stage ended in `passage` and the handler in `handled`: the
handler's value if both succeeded. -/
def answer {α : Type} (call : Call) (passage : Passage) (handled : Option (Except Status α)) :
    Except Status α :=
  match passage, handled with
  | .error status, _ => .error status
  | .ok (), some (.ok value) => .ok value
  | .ok (), _ => .error ⟨.internal, call.method ++ " was not handled"⟩

/-- Runs the stages from a position on around the handler. The result is what the first of these
stages makes of the call, and what the handler returned if it ran. -/
def run {α : Type} (call : Call) (handler : Operation (Except Status α)) :
    (position : Nat) → List Stage → Operation (Passage × Option (Except Status α))
  | _, [] => do
    Operation.mark .handled
    let result ← handler
    return (passage result, some result)
  | position, stage :: stages => do
    Operation.mark (.entered position)
    let start ← Operation.now
    Operation.log (stage.entering call)
    match stage.shortcut call with
    | some result =>
      Operation.mark (.left position)
      return (result, none)
    | none =>
      let (rest, handled) ← run call handler (position + 1) stages
      let stop ← Operation.now
      Operation.log (stage.leaving call rest (millisBetween start stop))
      Operation.mark (.left position)
      return (stage.result call rest, handled)

/-- Runs a call through the stages to its handler and back. -/
def serve {α : Type} (stages : List Stage) (call : Call) (handler : Operation (Except Status α)) :
    Operation (Except Status α) := do
  let (passage, handled) ← run call handler 0 stages
  return answer call passage handled

end Chain

end InfobaseGateway
