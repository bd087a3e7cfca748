import InfobaseGateway.Endpoint

/-!
# Envelopes and their answers

What an envelope names, and which replies answer it.
-/

namespace InfobaseGateway

namespace EndpointRequest

/-- The cluster that an envelope names. -/
def clusterId? : EndpointRequest → Option String
  | authenticate auth => auth.scope.clusterId?
  | getClusters => none
  | getClusterInfo clusterId | getSessions clusterId | getInfobasesShort clusterId =>
    some clusterId
  | getInfobaseSessions clusterId _ => some clusterId
  | createInfobase info | updateInfobase info | unregisterInfobase info => some info.clusterId
  | terminateSession session => some session.clusterId

/-- The infobase or the session that an envelope names. -/
def memberId? : EndpointRequest → Option String
  | getInfobaseSessions _ infobaseId => some infobaseId
  | createInfobase info | updateInfobase info | unregisterInfobase info => info.uuid
  | terminateSession session => some session.uuid
  | _ => none

/-- Whether a reply is a response of the kind that the request asks for. -/
def AnsweredBy
    (request : EndpointRequest) (reply : Except String EndpointResponse) : Prop :=
  ∃ response, reply = .ok response ∧ response.kind = request.expects

end EndpointRequest

/-- A response has content of the kind that it is of, and of no other. -/
theorem EndpointResponse.exists_content?_eq_some_iff
    (response : EndpointResponse) (kind : ResponseKind) :
    (∃ content, response.content? kind = some content) ↔ response.kind = kind := by
  cases kind with
  | _ =>
    cases response with
    | _ => simp [EndpointResponse.content?, EndpointResponse.kind]

end InfobaseGateway
