import InfobaseGateway.Operation.Creation

/-!
# Changing, locking and unlocking an infobase

An update sends its patch in one request. Locking and unlocking check their own request, and then
run the update that they stand for.
-/

namespace InfobaseGateway

/-- The checks that every operation on an existing infobase passes. -/
def validateIds (clusterId infobaseId : String) : Except ValidationError Unit := do
  requireText "cluster_id" clusterId
  requireText "infobase_id" infobaseId

def idFields (clusterId infobaseId : String) : EventFields :=
  [("cluster_id", clusterId), ("infobase_id", infobaseId)]

namespace UpdateInfobase

def requested (request : UpdateInfobase) : Event :=
  ⟨.info, "UpdateInfobase request",
    idFields request.clusterId request.infobaseId
      ++ [Member.view (.ofOption "sessions_deny" request.sessionsDeny),
        Member.view (.ofOption "scheduled_jobs_deny" request.scheduledJobsDeny)]⟩

/-- Changes the attributes that are present. -/
def perform (request : UpdateInfobase) : GatewayAttempt LifecycleOutcome := do
  ensure (validateIds request.clusterId request.infobaseId)
  Attempt.log [request.requested]
  let _ ← Dispatch.exchange "UpdateInfobase" (.updateInfobase request.info) fun error =>
    [requestFailure "UpdateInfobase" request.clusterId (some request.infobaseId) error]
  Attempt.log [⟨.info, "infobase updated", idFields request.clusterId request.infobaseId⟩]
  return ⟨request.infobaseId, none, "Infobase updated successfully", true⟩

end UpdateInfobase

namespace LockInfobase

def requested (lock : LockInfobase) : Event :=
  ⟨.info, "LockInfobase request",
    idFields lock.clusterId lock.infobaseId
      ++ [("sessions_deny", Text.showFlag lock.sessionsDeny),
        ("scheduled_jobs_deny", Text.showFlag lock.scheduledJobsDeny),
        ("has_permission_code", Text.showFlag lock.permissionCode.isSome)]⟩

def perform (lock : LockInfobase) : GatewayAttempt LifecycleOutcome := do
  ensure (validateIds lock.clusterId lock.infobaseId)
  let now ← Operation.now
  let warnings ← ensure (checkWindow lock.deniedFrom lock.deniedTo now)
  Attempt.log warnings
  Attempt.log [lock.requested]
  lock.update.perform

end LockInfobase

namespace UnlockInfobase

def requested (unlock : UnlockInfobase) : Event :=
  ⟨.info, "UnlockInfobase request",
    idFields unlock.clusterId unlock.infobaseId
      ++ [("unlock_sessions", Text.showFlag unlock.unlockSessions),
        ("unlock_scheduled_jobs", Text.showFlag unlock.unlockScheduledJobs)]⟩

def perform (unlock : UnlockInfobase) : GatewayAttempt LifecycleOutcome := do
  ensure (validateIds unlock.clusterId unlock.infobaseId)
  Attempt.log [unlock.requested]
  unlock.update.perform

end UnlockInfobase

end InfobaseGateway
