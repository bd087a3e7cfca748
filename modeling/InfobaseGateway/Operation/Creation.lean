import InfobaseGateway.Operation.Dispatch

/-!
# Creating an infobase

Creation is idempotent by name: the names of the cluster are looked up first, and an infobase that
has the requested name already is the answer. A lookup that finds no cluster or no infobase counts
as "not there"; every other failure ends the operation.
-/

namespace InfobaseGateway

/-- What a lifecycle operation tells its caller. -/
structure LifecycleOutcome where
  infobaseId : String
  /-- Only a creation tells the name. -/
  name : Option String
  message : String
  success : Bool
  deriving DecidableEq

/-- The record of a lifecycle request that the service did not carry out. -/
def requestFailure (operation clusterId : String) (infobaseId : Option String)
    (error : GatewayError) : Event :=
  let fields :=
    [("operation", operation), ("cluster_id", clusterId)]
      ++ optionalField "infobase_id" infobaseId ++ error.fields
  if error.isSystemFault then ⟨.error, "RAS request failed", fields⟩
  else ⟨.info, "RAS request rejected", fields⟩

namespace CreateInfobase

/-- The checks that a creation passes; they yield its database system. -/
def validate (request : CreateInfobase) : Except ValidationError DbmsKind := do
  requireText "cluster_id" request.clusterId
  checkName request.name
  let dbms ← requireDbms request.dbms
  checkServer dbms request.dbServer request.dbName
  return dbms

def requested (request : CreateInfobase) (dbms : DbmsKind) : Event :=
  ⟨.info, "CreateInfobase request",
    [("cluster_id", request.clusterId), ("name", request.name), ("dbms", dbms.name),
      ("db_server", request.dbServer)]⟩

/-- The record of a creation that finds its infobase. -/
def found (request : CreateInfobase) (existing : InfobaseShort) : Event :=
  ⟨.info, "idempotent CreateInfobase: infobase already exists",
    [("cluster_id", request.clusterId), ("name", request.name),
      ("infobase_id", existing.uuid)]⟩

/-- The record of a creation that made its infobase. -/
def created (request : CreateInfobase) (infobaseId : String) : Event :=
  ⟨.info, "infobase created",
    [("cluster_id", request.clusterId), ("infobase_id", infobaseId), ("name", request.name)]⟩

/-- The events of a lookup that failed: none if it found nothing. -/
def lookupFailure (request : CreateInfobase) (error : GatewayError) : List Event :=
  if error.code = .notFound then []
  else [requestFailure "GetInfobasesShort" request.clusterId none error]

/-- Looks up the infobase of the cluster that has exactly the requested name. -/
def lookup (request : CreateInfobase) : GatewayAttempt (Option InfobaseShort) :=
  .ofOutcome do
    let listing := Dispatch.send (.getInfobasesShort request.clusterId) request.lookupFailure
    match ← listing.outcome with
    | .ok infobases => return .ok (infobases.find? fun infobase => infobase.name = request.name)
    | .error error => return if error.code = .notFound then .ok none else .error error

/-- Creates the infobase after the lookup found none. -/
def createNew (request : CreateInfobase) : GatewayAttempt LifecycleOutcome := do
  Dispatch.checkpoint .cancelledBeforeSend
  let record : InfobaseInfo ← Dispatch.send (.createInfobase request.info) fun error =>
    [requestFailure "CreateInfobase" request.clusterId none error]
  match record.uuid with
  | some infobaseId =>
    if infobaseId = "" then throw .missingInfobaseId
    Attempt.log [request.created infobaseId]
    return ⟨infobaseId, some request.name, "Infobase created successfully", true⟩
  | none => throw .missingInfobaseId

/-- Creates an infobase, unless there is one with its name. -/
def perform (request : CreateInfobase) : GatewayAttempt LifecycleOutcome := do
  let dbms ← ensure request.validate
  Attempt.log [request.requested dbms]
  Dispatch.checkpoint .cancelled
  Dispatch.acquire "CreateInfobase"
  match ← request.lookup with
  | some existing =>
    Attempt.log [request.found existing]
    return ⟨existing.uuid, some existing.name,
      "Infobase already exists (idempotent operation)", true⟩
  | none => request.createNew

end CreateInfobase

end InfobaseGateway
