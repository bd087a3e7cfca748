import InfobaseGateway.Chain.Standard
import InfobaseGateway.Message.Codec
import InfobaseGateway.Operation.Query
import InfobaseGateway.Operation.Removal
import InfobaseGateway.Operation.Session
import InfobaseGateway.Request.Conversion
import InfobaseGateway.Rpc.Method

/-!
# Handling calls

A call converts its message to a request, performs the operation and answers with its result. All
of this happens inside the chain of stages, so a message that does not convert is audited like any
other failure.
-/

namespace InfobaseGateway

/-- The status of a call whose message is not a request. -/
def ConversionError.status (error : ConversionError) : Status :=
  ⟨error.code.status, error.message⟩

/-- A call in progress. -/
abbrev CallAttempt (α : Type) : Type :=
  Attempt Status α

namespace Rpc

/-- The request of a message. -/
def convert {α : Type} (result : Except ConversionError α) : CallAttempt α :=
  .ofExcept (result.mapError ConversionError.status)

/-- Performs an operation on behalf of a call. -/
def perform {α : Type} (attempt : GatewayAttempt α) : CallAttempt α :=
  .ofOutcome do
    let outcome ← attempt.outcome
    return outcome.mapError GatewayError.status

/-- What a method does, without the stages around it. -/
def handle : (rpc : Rpc) → rpc.Request → CallAttempt rpc.Response
  | createInfobase, message => do
    let request ← convert (CreateInfobase.ofMessage message)
    let outcome ← perform request.perform
    return (⟨outcome.infobaseId, outcome.name.getD "", outcome.message, outcome.success⟩ :
      CreateInfobaseResponse)
  | updateInfobase, message => do
    let request ← convert (UpdateInfobase.ofMessage message)
    let outcome ← perform request.perform
    return (⟨outcome.infobaseId, outcome.message, outcome.success⟩ : UpdateInfobaseResponse)
  | dropInfobase, message => do
    let request ← convert (DropInfobase.ofMessage message)
    let outcome ← perform request.perform
    return (⟨outcome.infobaseId, outcome.message, outcome.success⟩ : DropInfobaseResponse)
  | lockInfobase, message => do
    let request ← convert (LockInfobase.ofMessage message)
    let outcome ← perform request.perform
    return (⟨outcome.infobaseId, outcome.message, outcome.success⟩ : LockInfobaseResponse)
  | unlockInfobase, message => do
    let outcome ← perform (UnlockInfobase.ofMessage message).perform
    return (⟨outcome.infobaseId, outcome.message, outcome.success⟩ : UnlockInfobaseResponse)
  | terminateSession, message => do
    perform (TerminateSession.ofMessage message).perform
    return (⟨⟩ : TerminateSessionResponse)
  | authenticateAgent, message => do
    perform (Authenticate.ofAgentMessage message).perform
    return (⟨⟩ : AuthenticateResponse)
  | authenticateCluster, message => do
    perform (Authenticate.ofClusterMessage message).perform
    return (⟨⟩ : AuthenticateResponse)
  | authenticateInfobase, message => do
    perform (Authenticate.ofInfobaseMessage message).perform
    return (⟨⟩ : AuthenticateResponse)
  | getClusters, _ => do
    let clusters ← perform Query.clusters
    return (⟨clusters⟩ : GetClustersResponse)
  | getClusterInfo, message => do
    let cluster ← perform (Query.cluster message.clusterId)
    return (⟨some cluster⟩ : GetClusterInfoResponse)
  | getSessions, message => do
    let sessions ← perform (Query.sessions message.clusterId)
    return (⟨sessions⟩ : GetSessionsResponse)
  | getShortInfobases, message => do
    let infobases ← perform (Query.infobases message.clusterId)
    return (⟨infobases⟩ : GetInfobasesShortResponse)
  | getInfobaseSessions, message => do
    let sessions ← perform (Query.infobaseSessions message.clusterId message.infobaseId)
    return (⟨sessions⟩ : GetInfobaseSessionsResponse)

/-- The call that stages see of a message. -/
def call (rpc : Rpc) (message : rpc.Request) : Call :=
  ⟨rpc.path, .unary (some (.ofMessage message))⟩

/-- Serves a call through the standard stages. -/
def serve (rpc : Rpc) (message : rpc.Request) : Operation (Except Status rpc.Response) :=
  Chain.serve standardStages (rpc.call message) (rpc.handle message).outcome

end Rpc

/-- The status of bytes that are no message. -/
def Wire.DecodeError.status (error : Wire.DecodeError) : Status :=
  ⟨.internal, error.message⟩

/-- Serves a call by its path, from the bytes of its message to the bytes of its answer. -/
def Rpc.route (path : String) (body : Wire.Bytes) : Operation (Except Status Wire.Bytes) :=
  match Rpc.ofPath? path with
  | none => .done (.error ⟨.unimplemented, ""⟩)
  | some rpc =>
    match Message.decode rpc.Request body with
    | .error error => .done (.error error.status)
    | .ok message => do
      let answer ← rpc.serve message
      return answer.map Message.encode

end InfobaseGateway
