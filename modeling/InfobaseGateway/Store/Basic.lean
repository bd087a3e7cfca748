import InfobaseGateway.Infobase.Record
import InfobaseGateway.Message.Nested
import InfobaseGateway.Store.Keyed

/-!
# The store of an administration service

What a service in memory holds: its clusters, the infobases of each in the order of their creation,
the sessions, and who may authenticate. An empty list of accounts admits everyone.
-/

namespace InfobaseGateway

/-- A user with a password. -/
structure Account where
  user : String
  password : String
  deriving DecidableEq

/-- A cluster and everything in it. -/
structure Cluster where
  summary : ClusterInfo
  infobases : List InfobaseInfo
  sessions : Keyed SessionEntry
  admins : List Account
  infobaseUsers : List Account
  deriving DecidableEq

/-- What a service holds. -/
structure Store where
  clusters : Keyed Cluster
  agentAdmins : List Account
  deriving DecidableEq

namespace Cluster

/-- The host of a cluster that names none. -/
def defaultHost : String :=
  "localhost"

/-- The port of a cluster that names none. -/
def defaultPort : UInt32 :=
  1541

/-- A cluster with nothing in it, named like its id. -/
def new (id : String) : Cluster where
  summary := ⟨id, defaultHost, defaultPort, id⟩
  infobases := []
  sessions := .empty
  admins := []
  infobaseUsers := []

/-- Adds a session, in place of the one with its uuid. -/
def addSession (cluster : Cluster) (session : SessionEntry) : Cluster :=
  { cluster with sessions := cluster.sessions.insert session.uuid session }

/-- The first infobase with the given uuid. -/
def infobase? (cluster : Cluster) (uuid : Option String) : Option InfobaseInfo :=
  cluster.infobases.find? fun infobase => infobase.uuid.isSome && infobase.uuid = uuid

/-- Whether an infobase of the cluster has the given name. -/
def hasName (cluster : Cluster) (name : String) : Bool :=
  cluster.infobases.any fun infobase => infobase.name = some name

/-- Changes the first record of a list that has the given uuid. -/
def modifyFirst (uuid : Option String) (change : InfobaseInfo → InfobaseInfo) :
    List InfobaseInfo → List InfobaseInfo
  | [] => []
  | infobase :: rest =>
    if infobase.uuid.isSome && infobase.uuid = uuid then change infobase :: rest
    else infobase :: modifyFirst uuid change rest

def modifyInfobase (cluster : Cluster) (uuid : Option String)
    (change : InfobaseInfo → InfobaseInfo) : Cluster :=
  { cluster with infobases := modifyFirst uuid change cluster.infobases }

def removeInfobase (cluster : Cluster) (uuid : Option String) : Cluster :=
  { cluster with
    infobases := cluster.infobases.eraseP fun infobase =>
      infobase.uuid.isSome && infobase.uuid = uuid }

end Cluster

/-- A session that is bound to no infobase. -/
def SessionEntry.unbound (uuid : String) : SessionEntry :=
  ⟨uuid, "", "", ""⟩

/-- An infobase in the short listing. -/
def InfobaseInfo.short (info : InfobaseInfo) : InfobaseShort :=
  ⟨info.uuid.getD "", info.name.getD "", info.description.getD ""⟩

namespace Store

def empty : Store :=
  ⟨.empty, []⟩

def putCluster (store : Store) (id : String) (cluster : Cluster) : Store :=
  { store with clusters := store.clusters.insert id cluster }

/-- Changes a cluster if it is there. -/
def modifyCluster (store : Store) (id : String) (change : Cluster → Cluster) : Store :=
  match store.clusters.get? id with
  | some cluster => store.putCluster id (change cluster)
  | none => store

/-- Adds a cluster with nothing in it, unless there is one with its id. -/
def addCluster (store : Store) (id : String) : Store :=
  if store.clusters.contains id then store else store.putCluster id (.new id)

/-- Adds a session that is bound to no infobase. -/
def addSession (store : Store) (clusterId sessionId : String) : Store :=
  store.modifyCluster clusterId fun cluster => cluster.addSession (.unbound sessionId)

/-- Adds a session. -/
def addInfobaseSession (store : Store) (clusterId : String) (session : SessionEntry) : Store :=
  store.modifyCluster clusterId fun cluster => cluster.addSession session

/-- Adds an administrator of a cluster. -/
def addClusterAdmin (store : Store) (clusterId : String) (account : Account) : Store :=
  store.modifyCluster clusterId fun cluster =>
    { cluster with admins := cluster.admins ++ [account] }

/-- The first infobase of a cluster with the given uuid. -/
def infobase? (store : Store) (clusterId uuid : String) : Option InfobaseInfo :=
  (store.clusters.get? clusterId).bind fun cluster => cluster.infobase? (some uuid)

def infobaseCount (store : Store) (clusterId : String) : Nat :=
  ((store.clusters.get? clusterId).map fun cluster => cluster.infobases.length).getD 0

def hasSession (store : Store) (clusterId sessionId : String) : Bool :=
  ((store.clusters.get? clusterId).map fun cluster => cluster.sessions.contains sessionId).getD
    false

end Store

end InfobaseGateway
