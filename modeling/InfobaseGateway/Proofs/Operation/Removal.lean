import InfobaseGateway.Operation.Removal
import InfobaseGateway.Proofs.Operation.Laws

/-!
# The audited steps of a removal

A removal closes its audit trail at every place where it can end. Its steps are the shared steps of
all operations with a record more on the failing side, and they have the same kind of equations.
-/

namespace InfobaseGateway.DropInfobase

variable {α β : Type}

theorem outcome_auditedCheckpoint_bind
    (request : DropInfobase) (mode : DropMode) (error : GatewayError) (stage : String)
    (f : Unit → GatewayAttempt β) :
    (request.auditedCheckpoint mode error stage >>= f).outcome =
      .checkpoint fun cancelled =>
        if cancelled then
          .note (.event (request.cancelled mode stage)) (.done (.error error))
        else (f ()).outcome := by
  rw [Attempt.outcome_bind]
  show Operation.checkpoint _ = Operation.checkpoint _
  congr 1
  funext cancelled
  cases cancelled with
  | true => rfl
  | false => rfl

/-- The closing of a removal that failed: it reads the clock and leaves the record. -/
def closeFailed (request : DropInfobase) (mode : DropMode) (error : GatewayError) :
    Operation (Except GatewayError β) :=
  .clock fun now => .note (.event (request.failed mode error now)) (.done (.error error))

theorem outcome_auditedAcquire_bind
    (request : DropInfobase) (mode : DropMode) (operation : String)
    (f : Unit → GatewayAttempt β) :
    (request.auditedStep mode (Dispatch.acquire operation) >>= f).outcome =
      .acquire [] fun
        | .ok () => (f ()).outcome
        | .error text =>
          .note (.event (Dispatch.acquireFailure operation (.ofText text)))
            (request.closeFailed mode (.endpoint (.ofText text))) := by
  rw [Attempt.outcome_bind]
  show Operation.acquire _ _ = Operation.acquire _ _
  congr 1
  funext reply
  cases reply with
  | ok => rfl
  | error text => rfl

theorem outcome_auditedSend_bind
    (request : DropInfobase) (mode : DropMode) (envelope : EndpointRequest)
    (f : envelope.expects.Content → GatewayAttempt β) :
    (request.auditedStep mode (Dispatch.send envelope fun _ => []) >>= f).outcome =
      .send envelope [] fun reply =>
        match Dispatch.receive envelope reply with
        | .ok content => (f content).outcome
        | .error error => request.closeFailed mode error := by
  rw [Attempt.outcome_bind]
  show Operation.send _ _ _ = Operation.send _ _ _
  congr 1
  funext reply
  cases hreceive : Dispatch.receive envelope reply with
  | ok content => simp only [hreceive, Operation.bind, Operation.pure_eq_done]
  | error error =>
    simp only [hreceive, Operation.log, Operation.bind, Operation.bind_eq_bind, Operation.now,
      Operation.pure_eq_done, closeFailed]

/-- What a removal that was carried out tells its caller. -/
def dropped (request : DropInfobase) : LifecycleOutcome :=
  ⟨request.infobaseId, none, "Infobase dropped successfully", true⟩

end InfobaseGateway.DropInfobase
