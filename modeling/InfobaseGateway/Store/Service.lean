import InfobaseGateway.Endpoint
import InfobaseGateway.Operation.Run
import InfobaseGateway.Store.Basic

/-!
# Answering from a store

A service in memory answers every request in one step from its store, and fails with the texts of a
real administration service. Nothing changes when it fails. A new infobase gets the next uuid of a
supply.
-/

namespace InfobaseGateway

/-- Why the service rejects a request. -/
inductive Rejection
  | wrongCredentials (scope : AuthScope)
  | unknownCluster (id : String)
  | unknownInfobase (uuid : Option String)
  | nameMissing
  | nameTaken (name : String)
  | unknownSession (uuid : String)
  deriving DecidableEq

def Rejection.message : Rejection → String
  | wrongCredentials scope =>
    scope.name ++ " authentication failed: wrong user name or password"
  | unknownCluster id => "cluster " ++ id ++ " not found"
  | unknownInfobase uuid => "infobase " ++ uuid.getD "<none>" ++ " does not exist"
  | nameMissing => "invalid infobase: name is missing"
  | nameTaken name => "infobase " ++ name ++ " already exists"
  | unknownSession uuid => "session " ++ uuid ++ " not found"

namespace Store

def cluster (store : Store) (id : String) : Except Rejection Cluster :=
  match store.clusters.get? id with
  | some cluster => .ok cluster
  | none => .error (.unknownCluster id)

/-- Whether a list of accounts admits the credentials. -/
def admits (accounts : List Account) (credentials : Credentials) : Bool :=
  accounts.isEmpty || accounts.any fun account =>
    account.user = credentials.user.getD "" && account.password = credentials.password.getD ""

/-- The accounts that a scope is checked against. -/
def accounts (store : Store) : AuthScope → Except Rejection (List Account)
  | .agent => .ok store.agentAdmins
  | .cluster id => (store.cluster id).map (·.admins)
  | .infobase id => (store.cluster id).map (·.infobaseUsers)

/-- Answers a request; `uuid` is the id of the infobase that the request may create. -/
def handle (store : Store) (uuid : String) :
    EndpointRequest → Except Rejection (EndpointResponse × Store)
  | .authenticate auth => do
    let accounts ← store.accounts auth.scope
    if admits accounts auth.credentials then .ok (.authenticated, store)
    else .error (.wrongCredentials auth.scope)
  | .getClusters => .ok (.clusters (store.clusters.toList.map (·.summary)), store)
  | .getClusterInfo id => do
    let cluster ← store.cluster id
    .ok (.cluster cluster.summary, store)
  | .getSessions id => do
    let cluster ← store.cluster id
    .ok (.sessions cluster.sessions.toList, store)
  | .getInfobasesShort id => do
    let cluster ← store.cluster id
    .ok (.infobaseSummaries (cluster.infobases.map InfobaseInfo.short), store)
  | .getInfobaseSessions id infobaseId => do
    let cluster ← store.cluster id
    match cluster.infobase? (some infobaseId) with
    | some _ =>
      let sessions := cluster.sessions.toList.filter fun session =>
        session.infobaseId = infobaseId
      .ok (.sessions sessions, store)
    | none => .error (.unknownInfobase (some infobaseId))
  | .createInfobase info => do
    let cluster ← store.cluster info.clusterId
    match info.name with
    | none => .error .nameMissing
    | some name =>
      if cluster.hasName name then .error (.nameTaken name)
      else
        let created := { info with uuid := some uuid }
        let cluster := { cluster with infobases := cluster.infobases ++ [created] }
        .ok (.infobase created, store.putCluster info.clusterId cluster)
  | .updateInfobase patch => do
    let cluster ← store.cluster patch.clusterId
    match cluster.infobase? patch.uuid with
    | some infobase =>
      let cluster := cluster.modifyInfobase patch.uuid (·.patchedBy patch)
      .ok (.infobase (infobase.patchedBy patch), store.putCluster patch.clusterId cluster)
    | none => .error (.unknownInfobase patch.uuid)
  | .unregisterInfobase info => do
    let cluster ← store.cluster info.clusterId
    match cluster.infobase? info.uuid with
    | some infobase =>
      .ok (.infobase infobase,
        store.putCluster info.clusterId (cluster.removeInfobase info.uuid))
    | none => .error (.unknownInfobase info.uuid)
  | .terminateSession session => do
    let cluster ← store.cluster session.clusterId
    if cluster.sessions.contains session.uuid then
      let cluster := { cluster with sessions := cluster.sessions.erase session.uuid }
      .ok (.session session, store.putCluster session.clusterId cluster)
    else .error (.unknownSession session.uuid)

end Store

/-- A service in memory: its store, and how many uuids of the supply it has used. -/
structure Service where
  store : Store
  issued : Nat

namespace Service

def rejectionEvent (rejection : Rejection) : Event :=
  ⟨.debug, "in-memory RAS rejected request", [("error", rejection.message)]⟩

/-- Whether an answered request used up a uuid. -/
def usesUuid : EndpointRequest → Bool
  | .createInfobase _ => true
  | _ => false

/-- Answers a request, with the uuids of the supply. -/
def answer (uuids : Nat → String) (request : EndpointRequest) (service : Service) :
    Except Rejection EndpointResponse × Service :=
  match service.store.handle (uuids service.issued) request with
  | .ok (response, store) =>
    (.ok response,
      ⟨store, if usesUuid request then service.issued + 1 else service.issued⟩)
  | .error rejection => (.error rejection, service)

/-- A service in memory as the surroundings of operations, at a fixed time. Its endpoint is always
at hand, and the caller never withdraws. -/
def surroundings (uuids : Nat → String) (now : Instant) : Surroundings Service where
  cancelled _ := false
  clock service := (now, service)
  acquire service := ({ reply := some (.ok ()) }, service)
  send request service :=
    match service.answer uuids request with
    | (.ok response, service) => ({ reply := some (.ok response) }, service)
    | (.error rejection, service) =>
      ({ reply := some (.error rejection.message), events := [rejectionEvent rejection] },
        service)

end Service

end InfobaseGateway
