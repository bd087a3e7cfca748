import InfobaseGateway.Message.Lifecycle
import InfobaseGateway.Message.Query

/-!
# The remote procedures

The fourteen methods that callers can invoke, with their paths and their messages.
-/

namespace InfobaseGateway

/-- A method of the gateway. -/
inductive Rpc
  | createInfobase
  | updateInfobase
  | dropInfobase
  | lockInfobase
  | unlockInfobase
  | terminateSession
  | authenticateAgent
  | authenticateCluster
  | authenticateInfobase
  | getClusters
  | getClusterInfo
  | getSessions
  | getShortInfobases
  | getInfobaseSessions
  deriving DecidableEq

namespace Rpc

def all : List Rpc :=
  [createInfobase, updateInfobase, dropInfobase, lockInfobase, unlockInfobase, terminateSession,
    authenticateAgent, authenticateCluster, authenticateInfobase, getClusters, getClusterInfo,
    getSessions, getShortInfobases, getInfobaseSessions]

def name : Rpc → String
  | createInfobase => "CreateInfobase"
  | updateInfobase => "UpdateInfobase"
  | dropInfobase => "DropInfobase"
  | lockInfobase => "LockInfobase"
  | unlockInfobase => "UnlockInfobase"
  | terminateSession => "TerminateSession"
  | authenticateAgent => "AuthenticateAgent"
  | authenticateCluster => "AuthenticateCluster"
  | authenticateInfobase => "AuthenticateInfobase"
  | getClusters => "GetClusters"
  | getClusterInfo => "GetClusterInfo"
  | getSessions => "GetSessions"
  | getShortInfobases => "GetShortInfobases"
  | getInfobaseSessions => "GetInfobaseSessions"

/-- The service that a method belongs to. -/
def service : Rpc → String
  | createInfobase | updateInfobase | dropInfobase | lockInfobase | unlockInfobase =>
    "infobase.service.InfobaseManagementService"
  | terminateSession => "ras.service.SessionsService"
  | _ => "ras.service.RasQueryService"

def path (rpc : Rpc) : String :=
  "/" ++ rpc.service ++ "/" ++ rpc.name

def ofPath? (path : String) : Option Rpc :=
  all.find? fun rpc => rpc.path = path

@[reducible]
def Request : Rpc → Type
  | createInfobase => CreateInfobaseRequest
  | updateInfobase => UpdateInfobaseRequest
  | dropInfobase => DropInfobaseRequest
  | lockInfobase => LockInfobaseRequest
  | unlockInfobase => UnlockInfobaseRequest
  | terminateSession => TerminateSessionRequest
  | authenticateAgent => AuthenticateAgentRequest
  | authenticateCluster => ClusterAuthenticateRequest
  | authenticateInfobase => AuthenticateInfobaseRequest
  | getClusters => GetClustersRequest
  | getClusterInfo => GetClusterInfoRequest
  | getSessions => GetSessionsRequest
  | getShortInfobases => GetInfobasesShortRequest
  | getInfobaseSessions => GetInfobaseSessionsRequest

@[reducible]
def Response : Rpc → Type
  | createInfobase => CreateInfobaseResponse
  | updateInfobase => UpdateInfobaseResponse
  | dropInfobase => DropInfobaseResponse
  | lockInfobase => LockInfobaseResponse
  | unlockInfobase => UnlockInfobaseResponse
  | terminateSession => TerminateSessionResponse
  | authenticateAgent => AuthenticateResponse
  | authenticateCluster => AuthenticateResponse
  | authenticateInfobase => AuthenticateResponse
  | getClusters => GetClustersResponse
  | getClusterInfo => GetClusterInfoResponse
  | getSessions => GetSessionsResponse
  | getShortInfobases => GetInfobasesShortResponse
  | getInfobaseSessions => GetInfobaseSessionsResponse

instance (rpc : Rpc) : Message rpc.Request := by
  cases rpc <;> exact inferInstance

instance (rpc : Rpc) : Message rpc.Response := by
  cases rpc <;> exact inferInstance

end Rpc

end InfobaseGateway
