import InfobaseGateway.Config.Decode
import InfobaseGateway.Store.Seed
import InfobaseGateway.Text.Quoted

/-!
# Settings of the service in memory

How the clusters, infobases, sessions and accounts that a service starts with are written in a
configuration. Only ids, names of infobases and users are required.
-/

namespace InfobaseGateway

open Config

def Config.optionTree {α : Type} (toTree : α → ConfigTree) : Option α → ConfigTree
  | some value => toTree value
  | none => .null

def Config.listTree {α : Type} (toTree : α → ConfigTree) (values : List α) : ConfigTree :=
  .list (values.map toTree)

namespace Account

def fields : Fields Account :=
  mk <$> .required "user" Decode.text <*> .defaulted "password" Decode.text ""

def toTree (account : Account) : ConfigTree :=
  .dict [("user", .text account.user), ("password", .text account.password)]

/-- The structured view of an account, which does not mention its password. -/
def view (account : Account) : String :=
  "InMemoryCredential \x7b user: " ++ Text.quote account.user ++ ", .. \x7d"

end Account

namespace InfobaseSeed

def fields : Fields InfobaseSeed :=
  mk <$> .optional "uuid" Decode.text <*> .required "name" Decode.text
    <*> .optional "description" Decode.text

def toTree (seed : InfobaseSeed) : ConfigTree :=
  .dict [("uuid", optionTree .text seed.uuid), ("name", .text seed.name),
    ("description", optionTree .text seed.description)]

def view (seed : InfobaseSeed) : String :=
  Text.showRecord "InMemoryInfobaseSeed"
    [("uuid", Text.showOption (seed.uuid.map Text.quote)), ("name", Text.quote seed.name),
      ("description", Text.showOption (seed.description.map Text.quote))]

end InfobaseSeed

namespace ClusterSeed

/-- Reads a port of a cluster. -/
def decodePort (tree : ConfigTree) : Decoded UInt32 :=
  UInt32.ofNat <$> Decode.unsigned 32 tree

def fields : Fields ClusterSeed :=
  mk <$> .required "id" Decode.text
    <*> .optional "name" Decode.text
    <*> .optional "host" Decode.text
    <*> .optional "port" decodePort
    <*> .defaulted "infobases" (Decode.list InfobaseSeed.fields.decode) []
    <*> .defaulted "sessions" (Decode.list Decode.text) []
    <*> .defaulted "admins" (Decode.list Account.fields.decode) []
    <*> .defaulted "infobase_users" (Decode.list Account.fields.decode) []

def toTree (seed : ClusterSeed) : ConfigTree :=
  .dict [("id", .text seed.id),
    ("name", optionTree .text seed.name),
    ("host", optionTree .text seed.host),
    ("port", optionTree (fun port => .integer port.toNat) seed.port),
    ("infobases", listTree InfobaseSeed.toTree seed.infobases),
    ("sessions", listTree .text seed.sessions),
    ("admins", listTree Account.toTree seed.admins),
    ("infobase_users", listTree Account.toTree seed.infobaseUsers)]

def view (seed : ClusterSeed) : String :=
  Text.showRecord "InMemoryClusterConfig"
    [("id", Text.quote seed.id),
      ("name", Text.showOption (seed.name.map Text.quote)),
      ("host", Text.showOption (seed.host.map Text.quote)),
      ("port", Text.showOption (seed.port.map fun port => toString port.toNat)),
      ("infobases", Text.showList (seed.infobases.map InfobaseSeed.view)),
      ("sessions", Text.showList (seed.sessions.map Text.quote)),
      ("admins", Text.showList (seed.admins.map Account.view)),
      ("infobase_users", Text.showList (seed.infobaseUsers.map Account.view))]

end ClusterSeed

namespace StoreSeed

def fields : Fields StoreSeed :=
  mk <$> .defaulted "clusters" (Decode.list ClusterSeed.fields.decode) []
    <*> .defaulted "agent_admins" (Decode.list Account.fields.decode) []

def toTree (seed : StoreSeed) : ConfigTree :=
  .dict [("clusters", listTree ClusterSeed.toTree seed.clusters),
    ("agent_admins", listTree Account.toTree seed.agentAdmins)]

def view (seed : StoreSeed) : String :=
  Text.showRecord "InMemoryEndpointConfig"
    [("clusters", Text.showList (seed.clusters.map ClusterSeed.view)),
      ("agent_admins", Text.showList (seed.agentAdmins.map Account.view))]

end StoreSeed

end InfobaseGateway
