import InfobaseGateway.Operation.Dispatch

/-!
# Ending a session
-/

namespace InfobaseGateway.TerminateSession

/-- The checks that the request passes. -/
def validate (request : TerminateSession) : Except ValidationError Unit := do
  requireText "cluster_id" request.clusterId
  requireText "session_id" request.sessionId

def fields (request : TerminateSession) : EventFields :=
  [("cluster_id", request.clusterId), ("session_id", request.sessionId)]

/-- The session as the service knows it. -/
def session (request : TerminateSession) : SessionInfo :=
  ⟨request.clusterId, request.sessionId⟩

def failureEvents (request : TerminateSession) (error : GatewayError) : List Event :=
  if error.isSystemFault then
    [⟨.error, "failed to terminate session", request.fields ++ error.fields⟩]
  else []

def perform (request : TerminateSession) : GatewayAttempt Unit := do
  ensure request.validate
  Attempt.log [⟨.info, "TerminateSession request", request.fields⟩]
  let _ ← Dispatch.exchange "TerminateSession" (.terminateSession request.session)
    request.failureEvents
  Attempt.log [⟨.info, "session terminated", request.fields⟩]

end InfobaseGateway.TerminateSession
