import InfobaseGateway.Operation.Change

/-!
# Queries and authentication

Questions to the administration service that change nothing: each is one round trip, and its answer
is handed on as it is.
-/

namespace InfobaseGateway

namespace Query

/-- The record of a question that was not answered. -/
def failureEvents (operation : String) (clusterId : Option String) (error : GatewayError) :
    List Event :=
  if error.isSystemFault then
    [⟨.error, "RAS query failed",
      [("operation", operation)] ++ optionalField "cluster_id" clusterId ++ error.fields⟩]
  else []

/-- Asks the service; the operation is named like the request. -/
def ask (request : EndpointRequest) (clusterId : Option String) :
    GatewayAttempt request.expects.Content :=
  Dispatch.exchange request.name request (failureEvents request.name clusterId)

def clusters : GatewayAttempt (List ClusterInfo) :=
  ask .getClusters none

def cluster (clusterId : String) : GatewayAttempt ClusterInfo := do
  ensure (requireText "cluster_id" clusterId)
  ask (.getClusterInfo clusterId) (some clusterId)

def sessions (clusterId : String) : GatewayAttempt (List SessionEntry) := do
  ensure (requireText "cluster_id" clusterId)
  ask (.getSessions clusterId) (some clusterId)

def infobases (clusterId : String) : GatewayAttempt (List InfobaseShort) := do
  ensure (requireText "cluster_id" clusterId)
  ask (.getInfobasesShort clusterId) (some clusterId)

def infobaseSessions (clusterId infobaseId : String) : GatewayAttempt (List SessionEntry) := do
  ensure (validateIds clusterId infobaseId)
  ask (.getInfobaseSessions clusterId infobaseId) (some clusterId)

end Query

namespace Authenticate

/-- The checks that the request passes: a cluster if the scope has one, and a user. -/
def validate (request : Authenticate) : Except ValidationError Unit := do
  if let some clusterId := request.scope.clusterId? then
    requireText "cluster_id" clusterId
  requireText "user" (request.credentials.user.getD "")

/-- The fields that describe the scope. -/
def fields (request : Authenticate) : EventFields :=
  ("scope", request.scope.name) :: optionalField "cluster_id" request.scope.clusterId?

def perform (request : Authenticate) : GatewayAttempt Unit := do
  ensure request.validate
  Attempt.log [⟨.info, "Authenticate request",
    request.fields ++ optionalField "user" request.credentials.user⟩]
  Query.ask (.authenticate request) request.scope.clusterId?
  Attempt.log [⟨.info, "authenticated", request.fields⟩]

end Authenticate

end InfobaseGateway
