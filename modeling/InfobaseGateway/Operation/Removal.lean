import InfobaseGateway.Operation.Change

/-!
# Removing an infobase

A removal only takes the infobase out of its cluster; modes that would touch the database are
refused. It is audited by one record when it is asked for and one record that closes it: completed,
failed, or cancelled. A call that is abandoned while it waits closes as cancelled.
-/

namespace InfobaseGateway.DropInfobase

/-- The checks that a removal passes; they yield its mode. -/
def validate (request : DropInfobase) : Except ValidationError DropMode := do
  validateIds request.clusterId request.infobaseId
  requireDropMode request.dropMode

/-- The fields of every record about a removal. -/
def fields (request : DropInfobase) (mode : DropMode) : EventFields :=
  ("operation", "DropInfobase") :: idFields request.clusterId request.infobaseId
    ++ [("drop_mode", mode.name)]

/-- The record of a removal in a mode that is not supported. -/
def unsupported (request : DropInfobase) (mode : DropMode) : Event :=
  ⟨.warn, "unsupported drop_mode requested", request.fields mode⟩

def requested (request : DropInfobase) (mode : DropMode) (time : Instant) : Event :=
  ⟨.warn, "destructive operation requested",
    request.fields mode ++ optionalField "cluster_user" request.credentials.user
      ++ [("requested_at", time.text)]⟩

/-- The closing record of a removal that was cancelled at a stage. -/
def cancelled (request : DropInfobase) (mode : DropMode) (stage : String) : Event :=
  ⟨.info, "destructive operation cancelled",
    request.fields mode ++ [("status", "cancelled"), ("stage", stage)]⟩

/-- The closing record of a removal that failed. -/
def failed (request : DropInfobase) (mode : DropMode) (error : GatewayError) (time : Instant) :
    Event :=
  ⟨.error, "destructive operation failed",
    request.fields mode ++ [("status", "failed")] ++ error.fields ++ [("failed_at", time.text)]⟩

/-- The closing record of a removal that was carried out. -/
def completed (request : DropInfobase) (mode : DropMode) (time : Instant) : Event :=
  ⟨.warn, "destructive operation completed",
    request.fields mode ++ [("status", "completed"), ("completed_at", time.text)]⟩

/-- Ends the removal as cancelled if the caller has withdrawn. -/
def auditedCheckpoint (request : DropInfobase) (mode : DropMode) (error : GatewayError)
    (stage : String) : GatewayAttempt Unit :=
  .ofOutcome do
    let outcome ← (Dispatch.checkpoint error).outcome
    if outcome matches .error _ then
      Operation.log [request.cancelled mode stage]
    return outcome

/-- Runs a step of the removal; if it fails, the removal ends as failed. -/
def auditedStep {α : Type} (request : DropInfobase) (mode : DropMode)
    (step : GatewayAttempt α) : GatewayAttempt α :=
  .ofOutcome do
    match ← step.outcome with
    | .ok result => return .ok result
    | .error error =>
      let now ← Operation.now
      Operation.log [request.failed mode error now]
      return .error error

/-- The removal after its first record. -/
def unregister (request : DropInfobase) (mode : DropMode) : GatewayAttempt LifecycleOutcome := do
  request.auditedCheckpoint mode .cancelled "before endpoint acquisition"
  request.auditedStep mode (Dispatch.acquire "DropInfobase")
  request.auditedCheckpoint mode .cancelledBeforeSend "before RAS request"
  let _ ← request.auditedStep mode (Dispatch.send (.unregisterInfobase request.info) fun _ => [])
  let now ← Operation.now
  Attempt.log [request.completed mode now]
  return ⟨request.infobaseId, none, "Infobase dropped successfully", true⟩

/-- Removes an infobase from its cluster. -/
def perform (request : DropInfobase) : GatewayAttempt LifecycleOutcome := do
  let mode ← ensure request.validate
  if mode ≠ .unregisterOnly then
    Attempt.log [request.unsupported mode]
    throw (.unsupportedDropMode mode)
  let now ← Operation.now
  Attempt.log [request.requested mode now]
  .ofOutcome <|
    (request.unregister mode).outcome.onAbandon [request.cancelled mode "abandoned in flight"]

end InfobaseGateway.DropInfobase
