import InfobaseGateway.ErrorCode
import InfobaseGateway.Log
import InfobaseGateway.Store.Service

/-!
# Building a store from its configuration

A configuration lists clusters with their infobases, sessions and accounts. Two clusters must not
share an id, and two infobases of a cluster must not share a name. Infobases without a uuid get one
from the supply, in the order in which they are listed.
-/

namespace InfobaseGateway

/-- An infobase to start with. -/
structure InfobaseSeed where
  uuid : Option String
  name : String
  description : Option String
  deriving DecidableEq

/-- A cluster to start with. -/
structure ClusterSeed where
  id : String
  name : Option String
  host : Option String
  port : Option UInt32
  infobases : List InfobaseSeed
  sessions : List String
  admins : List Account
  infobaseUsers : List Account
  deriving DecidableEq

/-- What a service in memory starts with. -/
structure StoreSeed where
  clusters : List ClusterSeed
  agentAdmins : List Account
  deriving DecidableEq

/-- Why there is no store for a configuration. -/
inductive SeedError
  | duplicateCluster (id : String)
  | duplicateInfobase (clusterId name : String)
  deriving DecidableEq

namespace SeedError

def message : SeedError → String
  | duplicateCluster id => "cluster " ++ id ++ " is configured more than once"
  | duplicateInfobase clusterId name =>
    "infobase " ++ name ++ " is configured more than once in cluster " ++ clusterId

/-- Every such failure is the operator's mistake. -/
def code (_ : SeedError) : ErrorCode :=
  .invalidArgument

end SeedError

namespace StoreSeed

/-- The configuration of a service without clusters. -/
def empty : StoreSeed :=
  ⟨[], []⟩

end StoreSeed

/-- The record of a configured infobase. -/
def InfobaseSeed.info (seed : InfobaseSeed) (clusterId uuid : String) : InfobaseInfo where
  clusterId := clusterId
  uuid := some uuid
  name := some seed.name
  description := seed.description

namespace ClusterSeed

/-- A configured cluster before its infobases are added. -/
def start (seed : ClusterSeed) : Cluster :=
  let sessions := seed.sessions.foldl
    (fun sessions id => sessions.insert id (SessionEntry.unbound id)) Keyed.empty
  { summary :=
      ⟨seed.id, seed.host.getD Cluster.defaultHost, seed.port.getD Cluster.defaultPort,
        seed.name.getD seed.id⟩
    infobases := []
    sessions := sessions
    admins := seed.admins
    infobaseUsers := seed.infobaseUsers }

/-- Adds the configured infobases one after the other, with uuids from the supply for those that
have none, of which `issued` are used up before. -/
def addInfobases (uuids : Nat → String) :
    List InfobaseSeed → Cluster → (issued : Nat) → Except SeedError (Cluster × Nat)
  | [], cluster, issued => .ok (cluster, issued)
  | seed :: seeds, cluster, issued =>
    if cluster.hasName seed.name then
      .error (.duplicateInfobase cluster.summary.uuid seed.name)
    else
      let (uuid, issued) :=
        match seed.uuid with
        | some uuid => (uuid, issued)
        | none => (uuids issued, issued + 1)
      let infobase := seed.info cluster.summary.uuid uuid
      addInfobases uuids seeds { cluster with infobases := cluster.infobases ++ [infobase] } issued

end ClusterSeed

namespace Service

/-- Adds the configured clusters one after the other. -/
def addClusters (uuids : Nat → String) :
    List ClusterSeed → Service → Except SeedError Service
  | [], service => .ok service
  | seed :: seeds, service => do
    let (cluster, issued) ← ClusterSeed.addInfobases uuids seed.infobases seed.start service.issued
    if service.store.clusters.contains seed.id then .error (.duplicateCluster seed.id)
    else addClusters uuids seeds ⟨service.store.putCluster seed.id cluster, issued⟩

/-- The service that a configuration describes. -/
def ofSeed (uuids : Nat → String) (seed : StoreSeed) : Except SeedError Service :=
  addClusters uuids seed.clusters ⟨⟨.empty, seed.agentAdmins⟩, 0⟩

def readyEvent (service : Service) : Event :=
  ⟨.info, "in-memory RAS endpoint ready",
    [("clusters", toString service.store.clusters.size)]⟩

end Service

end InfobaseGateway
