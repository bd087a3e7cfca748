import InfobaseGateway.Operation.Program

/-!
# Running operations

The surroundings of an operation answer what it asks: they know whether the caller withdrew, tell
the time, hand out endpoints and reply to requests. An endpoint or a reply may also never come, and
then the operation is abandoned where it waits. A run records every step.
-/

namespace InfobaseGateway

/-- An answer of the surroundings, with the events that they log meanwhile. Without a reply the
answer never comes. -/
structure Answer (α : Type) where
  reply : Option (Except String α)
  events : List Event := []

/-- What surrounds an operation, with a state of its own. -/
structure Surroundings (σ : Type) where
  cancelled : σ → Bool
  clock : σ → Instant × σ
  acquire : σ → Answer Unit × σ
  send : EndpointRequest → σ → Answer EndpointResponse × σ

/-- A step of a run. Requests for an endpoint and for its answers say whether the caller had
withdrawn when they were made. -/
inductive Step
  | note (note : Note)
  | checkpoint (cancelled : Bool)
  | clock (now : Instant)
  | acquire (cancelled : Bool) (reply : Option (Except String Unit))
  | send (request : EndpointRequest) (cancelled : Bool)
      (reply : Option (Except String EndpointResponse))

/-- The notes of a list of events. -/
def eventSteps (events : List Event) : List Step :=
  events.map fun event => .note (.event event)

/-- A run: its steps, its result unless it was abandoned, and the state it left behind. -/
structure Run (σ α : Type) where
  steps : List Step
  outcome : Option α
  final : σ

namespace Run

variable {σ α : Type}

/-- A run with steps before it. -/
def after (steps : List Step) (run : Run σ α) : Run σ α :=
  { run with steps := steps ++ run.steps }

def notes (run : Run σ α) : List Note :=
  run.steps.filterMap fun
    | .note n => some n
    | _ => none

def events (run : Run σ α) : List Event :=
  run.notes.filterMap fun
    | .event event => some event
    | _ => none

def sent (run : Run σ α) : List EndpointRequest :=
  run.steps.filterMap fun
    | .send request _ _ => some request
    | _ => none

/-- How often a run asked for an endpoint. -/
def acquires (run : Run σ α) : Nat :=
  run.steps.countP fun
    | .acquire _ _ => true
    | _ => false

end Run

/-- Runs an operation in its surroundings. -/
def Operation.run {σ α : Type} (surroundings : Surroundings σ) :
    Operation α → σ → Run σ α
  | .done result, state => ⟨[], some result, state⟩
  | .note n next, state => (next.run surroundings state).after [.note n]
  | .checkpoint next, state =>
    let cancelled := surroundings.cancelled state
    ((next cancelled).run surroundings state).after [.checkpoint cancelled]
  | .clock next, state =>
    let (now, state) := surroundings.clock state
    ((next now).run surroundings state).after [.clock now]
  | .acquire abandoned next, state =>
    let cancelled := surroundings.cancelled state
    let (answer, state) := surroundings.acquire state
    let steps := .acquire cancelled answer.reply :: eventSteps answer.events
    match answer.reply with
    | some reply => ((next reply).run surroundings state).after steps
    | none => ⟨steps ++ eventSteps abandoned, none, state⟩
  | .send request abandoned next, state =>
    let cancelled := surroundings.cancelled state
    let (answer, state) := surroundings.send request state
    let steps := .send request cancelled answer.reply :: eventSteps answer.events
    match answer.reply with
    | some reply => ((next reply).run surroundings state).after steps
    | none => ⟨steps ++ eventSteps abandoned, none, state⟩

end InfobaseGateway
