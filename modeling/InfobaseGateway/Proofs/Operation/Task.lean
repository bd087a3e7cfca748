import InfobaseGateway.Proofs.Endpoint
import InfobaseGateway.Proofs.Operation.Laws
import InfobaseGateway.Proofs.Request.Validity
import Mathlib.Data.List.Nodup

/-!
# The tasks of the gateway

The twelve operations as one type, so that a theorem about all of them has one statement. A task
knows the checks that it makes before it contacts the administration service, and the envelopes that
it may send there. A creation looks up the names of its cluster first; every other task has one
envelope.
-/

namespace InfobaseGateway

/-- An operation of the gateway with its request. -/
inductive GatewayTask
  | create (request : CreateInfobase)
  | update (request : UpdateInfobase)
  | drop (request : DropInfobase)
  | lock (request : LockInfobase)
  | unlock (request : UnlockInfobase)
  | terminate (request : TerminateSession)
  | authenticate (request : Authenticate)
  | clusters
  | cluster (clusterId : String)
  | sessions (clusterId : String)
  | infobases (clusterId : String)
  | infobaseSessions (clusterId infobaseId : String)

namespace GatewayTask

/-- What a task tells its caller. -/
@[reducible]
def Result : GatewayTask → Type
  | create _ | update _ | drop _ | lock _ | unlock _ => LifecycleOutcome
  | terminate _ | authenticate _ => Unit
  | clusters => List ClusterInfo
  | cluster _ => ClusterInfo
  | sessions _ | infobaseSessions _ _ => List SessionEntry
  | infobases _ => List InfobaseShort

def perform : (task : GatewayTask) → GatewayAttempt task.Result
  | create request => request.perform
  | update request => request.perform
  | drop request => request.perform
  | lock request => request.perform
  | unlock request => request.perform
  | terminate request => request.perform
  | authenticate request => request.perform
  | clusters => Query.clusters
  | cluster clusterId => Query.cluster clusterId
  | sessions clusterId => Query.sessions clusterId
  | infobases clusterId => Query.infobases clusterId
  | infobaseSessions clusterId infobaseId => Query.infobaseSessions clusterId infobaseId

/-! ## What a task asks for -/

/-- Whether the request of a task passes its checks at a time. -/
def Valid (now : Instant) : GatewayTask → Prop
  | create request => request.Valid
  | update request => Filled request.clusterId ∧ Filled request.infobaseId
  | drop request => request.Valid
  | lock request =>
    (Filled request.clusterId ∧ Filled request.infobaseId) ∧
      IsWindow now request.deniedFrom request.deniedTo
  | unlock request => Filled request.clusterId ∧ Filled request.infobaseId
  | terminate request => Filled request.clusterId ∧ Filled request.sessionId
  | authenticate request => request.Valid
  | clusters => True
  | cluster clusterId | sessions clusterId | infobases clusterId => Filled clusterId
  | infobaseSessions clusterId infobaseId => Filled clusterId ∧ Filled infobaseId

/-- A removal whose mode would touch the database. -/
def Unsupported : GatewayTask → Prop
  | drop request => request.dropMode ≠ some .unregisterOnly
  | _ => False

/-- A task that is turned down without contacting the service. -/
def Refused (now : Instant) (task : GatewayTask) : Prop :=
  ¬task.Valid now ∨ task.Unsupported

def IsCreation (task : GatewayTask) : Prop :=
  ∃ request, task = .create request

/-- The envelope of a task. It is the last one that the task sends. -/
def envelope : GatewayTask → EndpointRequest
  | create request => .createInfobase request.info
  | update request => .updateInfobase request.info
  | drop request => .unregisterInfobase request.info
  | lock request => .updateInfobase request.update.info
  | unlock request => .updateInfobase request.update.info
  | terminate request => .terminateSession ⟨request.clusterId, request.sessionId⟩
  | authenticate request => .authenticate request
  | clusters => .getClusters
  | cluster clusterId => .getClusterInfo clusterId
  | sessions clusterId => .getSessions clusterId
  | infobases clusterId => .getInfobasesShort clusterId
  | infobaseSessions clusterId infobaseId => .getInfobaseSessions clusterId infobaseId

/-- The envelopes of a task in the order in which they are sent. -/
def envelopes : GatewayTask → List EndpointRequest
  | create request => [.getInfobasesShort request.clusterId, .createInfobase request.info]
  | task => [task.envelope]

def clusterId? : GatewayTask → Option String
  | create request => some request.clusterId
  | update request => some request.clusterId
  | drop request => some request.clusterId
  | lock request => some request.clusterId
  | unlock request => some request.clusterId
  | terminate request => some request.clusterId
  | authenticate request => request.scope.clusterId?
  | clusters => none
  | cluster clusterId | sessions clusterId | infobases clusterId => some clusterId
  | infobaseSessions clusterId _ => some clusterId

def memberId? : GatewayTask → Option String
  | update request => some request.infobaseId
  | drop request => some request.infobaseId
  | lock request => some request.infobaseId
  | unlock request => some request.infobaseId
  | terminate request => some request.sessionId
  | infobaseSessions _ infobaseId => some infobaseId
  | _ => none

end GatewayTask

/-! ## The envelopes of a task -/

namespace GatewayTask

theorem envelope_mem_envelopes (task : GatewayTask) : task.envelope ∈ task.envelopes := by
  cases task with
  | create request => exact List.mem_cons_of_mem _ List.mem_cons_self
  | _ => exact List.mem_cons_self

/-- Envelopes carry the ids of their task as the caller gave them. -/
theorem ids_of_mem_envelopes
    {task : GatewayTask} {request : EndpointRequest} (hmem : request ∈ task.envelopes) :
    request.clusterId? = task.clusterId? ∧ request.memberId? = task.memberId? := by
  cases task with
  | create create =>
    rcases List.mem_pair.mp hmem with rfl | rfl
    · exact ⟨rfl, rfl⟩
    · exact ⟨rfl, rfl⟩
  | _ =>
    rw [List.mem_singleton.mp hmem]
    exact ⟨rfl, rfl⟩

theorem envelopes_nodup (task : GatewayTask) : task.envelopes.Nodup := by
  cases task with
  | create request => simp [envelopes]
  | _ => exact List.nodup_singleton _

/-- Only a creation sends the record of a new infobase. -/
theorem eq_of_createInfobase_mem_envelopes
    {task : GatewayTask} {info : InfobaseInfo}
    (hmem : .createInfobase info ∈ task.envelopes) :
    ∃ request : CreateInfobase, task = .create request ∧ info = request.info := by
  cases task with
  | create request =>
    rcases List.mem_pair.mp hmem with h | h
    · cases h
    · cases h
      exact ⟨request, rfl, rfl⟩
  | _ => cases List.mem_singleton.mp hmem

end GatewayTask

end InfobaseGateway
