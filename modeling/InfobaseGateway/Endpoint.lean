import InfobaseGateway.Message.Nested
import InfobaseGateway.Request.Types

/-!
# The administration endpoint

Requests to the administration service and the responses it gives. Every request asks for one kind
of response.
-/

namespace InfobaseGateway

/-- A session of a cluster, as the service names it when it ends. -/
structure SessionInfo where
  clusterId : String
  uuid : String
  deriving DecidableEq

/-- What can be asked of the administration service. -/
inductive EndpointRequest
  | authenticate (auth : Authenticate)
  | getClusters
  | getClusterInfo (clusterId : String)
  | getSessions (clusterId : String)
  | getInfobasesShort (clusterId : String)
  | getInfobaseSessions (clusterId infobaseId : String)
  | createInfobase (info : InfobaseInfo)
  | updateInfobase (info : InfobaseInfo)
  | unregisterInfobase (info : InfobaseInfo)
  | terminateSession (session : SessionInfo)
  deriving DecidableEq

/-- The kinds of responses. -/
inductive ResponseKind
  | authenticated
  | clusters
  | cluster
  | sessions
  | infobaseSummaries
  | infobase
  | session
  deriving DecidableEq

namespace ResponseKind

def name : ResponseKind → String
  | authenticated => "Authenticated"
  | clusters => "Clusters"
  | cluster => "Cluster"
  | sessions => "Sessions"
  | infobaseSummaries => "InfobaseSummaries"
  | infobase => "Infobase"
  | session => "Session"

/-- What a response of a kind holds. -/
@[reducible]
def Content : ResponseKind → Type
  | authenticated => Unit
  | clusters => List ClusterInfo
  | cluster => ClusterInfo
  | sessions => List SessionEntry
  | infobaseSummaries => List InfobaseShort
  | infobase => InfobaseInfo
  | session => SessionInfo

end ResponseKind

/-- A response of the administration service. -/
inductive EndpointResponse
  | authenticated
  | clusters (clusters : List ClusterInfo)
  | cluster (cluster : ClusterInfo)
  | sessions (sessions : List SessionEntry)
  | infobaseSummaries (infobases : List InfobaseShort)
  | infobase (info : InfobaseInfo)
  | session (session : SessionInfo)
  deriving DecidableEq

namespace EndpointResponse

def kind : EndpointResponse → ResponseKind
  | authenticated => .authenticated
  | clusters _ => .clusters
  | cluster _ => .cluster
  | sessions _ => .sessions
  | infobaseSummaries _ => .infobaseSummaries
  | infobase _ => .infobase
  | session _ => .session

/-- What a response holds, if it is of the given kind. -/
def content? : (kind : ResponseKind) → EndpointResponse → Option kind.Content
  | .authenticated, authenticated => some ()
  | .clusters, clusters content => some content
  | .cluster, cluster content => some content
  | .sessions, sessions content => some content
  | .infobaseSummaries, infobaseSummaries content => some content
  | .infobase, infobase content => some content
  | .session, session content => some content
  | _, _ => none

end EndpointResponse

namespace EndpointRequest

def name : EndpointRequest → String
  | authenticate _ => "Authenticate"
  | getClusters => "GetClusters"
  | getClusterInfo _ => "GetClusterInfo"
  | getSessions _ => "GetSessions"
  | getInfobasesShort _ => "GetInfobasesShort"
  | getInfobaseSessions _ _ => "GetInfobaseSessions"
  | createInfobase _ => "CreateInfobase"
  | updateInfobase _ => "UpdateInfobase"
  | unregisterInfobase _ => "UnregisterInfobase"
  | terminateSession _ => "TerminateSession"

/-- The kind of response that a request asks for. -/
@[reducible]
def expects : EndpointRequest → ResponseKind
  | authenticate _ => .authenticated
  | getClusters => .clusters
  | getClusterInfo _ => .cluster
  | getSessions _ => .sessions
  | getInfobasesShort _ => .infobaseSummaries
  | getInfobaseSessions _ _ => .sessions
  | createInfobase _ => .infobase
  | updateInfobase _ => .infobase
  | unregisterInfobase _ => .infobase
  | terminateSession _ => .session

/-- Whether a request changes what the service stores. -/
def changesState : EndpointRequest → Bool
  | createInfobase _ | updateInfobase _ | unregisterInfobase _ | terminateSession _ => true
  | _ => false

end EndpointRequest

end InfobaseGateway
