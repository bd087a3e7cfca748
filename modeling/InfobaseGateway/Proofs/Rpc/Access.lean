import InfobaseGateway.Proofs.Infobase.Patch
import InfobaseGateway.Proofs.Operation.Timing
import InfobaseGateway.Proofs.Rpc.Presence
import InfobaseGateway.Proofs.Rpc.Window

/-!
# Locks and unlocks as updates

A call that locks or unlocks an infobase stands for an update: it checks its own message, and then
it cannot be told from the call of that update by provider, endpoint or caller. The update carries
a restriction only if it is asked for, so a flag that nobody asks about keeps its value: after calls
in a row each of the two flags has the value that the last call gave it which asked about it.
-/

namespace InfobaseGateway

/-! ## What an update carries -/

namespace UpdateInfobaseRequest

/-- Apart from who may use the infobase the update changes nothing. -/
structure ChangesAccessOnly (update : UpdateInfobaseRequest) : Prop where
  dbms : update.dbms = none
  dbServer : update.dbServer = none
  dbName : update.dbName = none
  dbUser : update.dbUser = none
  dbPassword : update.dbPassword = none
  description : update.description = none
  securityLevel : update.securityLevel = none
  locale : update.locale = none
  dateOffset : update.dateOffset = none
  licenseDistribution : update.licenseDistributionAllow = none

end UpdateInfobaseRequest

namespace LockInfobaseRequest

/-- What an update carries that a lock stands for. -/
structure CarriedBy (message : LockInfobaseRequest) (update : UpdateInfobaseRequest) : Prop where
  ids : update.clusterId = message.clusterId ∧ update.infobaseId = message.infobaseId
  credentials : update.clusterUser = message.clusterUser ∧
    update.clusterPassword = message.clusterPassword
  /-- Sessions are denied with everything that the message says about it, -/
  sessions : message.sessionsDeny = true →
    update.sessionsDeny = some true ∧ update.deniedFrom = message.deniedFrom ∧
      update.deniedTo = message.deniedTo ∧ update.deniedMessage = message.deniedMessage ∧
      update.permissionCode = message.permissionCode
  /-- or not mentioned at all. -/
  no_sessions : message.sessionsDeny = false →
    update.sessionsDeny = none ∧ update.deniedFrom = none ∧ update.deniedTo = none ∧
      update.deniedMessage = none ∧ update.permissionCode = none
  jobs : update.scheduledJobsDeny = if message.scheduledJobsDeny then some true else none
  rest : update.ChangesAccessOnly

/-- The update that a lock stands for. -/
def asUpdate (message : LockInfobaseRequest) : UpdateInfobaseRequest where
  clusterId := message.clusterId
  infobaseId := message.infobaseId
  sessionsDeny := if message.sessionsDeny then some true else none
  scheduledJobsDeny := if message.scheduledJobsDeny then some true else none
  deniedMessage := if message.sessionsDeny then message.deniedMessage else none
  deniedFrom := if message.sessionsDeny then message.deniedFrom else none
  deniedTo := if message.sessionsDeny then message.deniedTo else none
  permissionCode := if message.sessionsDeny then message.permissionCode else none
  dbms := none
  dbServer := none
  dbName := none
  dbUser := none
  dbPassword := none
  description := none
  securityLevel := none
  locale := none
  dateOffset := none
  licenseDistributionAllow := none
  clusterUser := message.clusterUser
  clusterPassword := message.clusterPassword

theorem carriedBy_asUpdate (message : LockInfobaseRequest) :
    message.CarriedBy message.asUpdate where
  ids := ⟨rfl, rfl⟩
  credentials := ⟨rfl, rfl⟩
  sessions hdeny := by simp [asUpdate, hdeny]
  no_sessions hopen := by simp [asUpdate, hopen]
  jobs := rfl
  rest := ⟨rfl, rfl, rfl, rfl, rfl, rfl, rfl, rfl, rfl, rfl⟩

end LockInfobaseRequest

namespace UnlockInfobaseRequest

/-- What an update carries that an unlock stands for. -/
structure CarriedBy (message : UnlockInfobaseRequest) (update : UpdateInfobaseRequest) :
    Prop where
  ids : update.clusterId = message.clusterId ∧ update.infobaseId = message.infobaseId
  credentials : update.clusterUser = message.clusterUser ∧
    update.clusterPassword = message.clusterPassword
  /-- Sessions are admitted without a permission code, -/
  sessions : message.unlockSessions = true →
    update.sessionsDeny = some false ∧ update.permissionCode = some ""
  /-- or not mentioned at all. -/
  no_sessions : message.unlockSessions = false →
    update.sessionsDeny = none ∧ update.permissionCode = none
  jobs : update.scheduledJobsDeny = if message.unlockScheduledJobs then some false else none
  no_window : update.deniedFrom = none ∧ update.deniedTo = none ∧ update.deniedMessage = none
  rest : update.ChangesAccessOnly

/-- The update that an unlock stands for. -/
def asUpdate (message : UnlockInfobaseRequest) : UpdateInfobaseRequest where
  clusterId := message.clusterId
  infobaseId := message.infobaseId
  sessionsDeny := if message.unlockSessions then some false else none
  scheduledJobsDeny := if message.unlockScheduledJobs then some false else none
  deniedMessage := none
  deniedFrom := none
  deniedTo := none
  permissionCode := if message.unlockSessions then some "" else none
  dbms := none
  dbServer := none
  dbName := none
  dbUser := none
  dbPassword := none
  description := none
  securityLevel := none
  locale := none
  dateOffset := none
  licenseDistributionAllow := none
  clusterUser := message.clusterUser
  clusterPassword := message.clusterPassword

theorem carriedBy_asUpdate (message : UnlockInfobaseRequest) :
    message.CarriedBy message.asUpdate where
  ids := ⟨rfl, rfl⟩
  credentials := ⟨rfl, rfl⟩
  sessions hadmit := by simp [asUpdate, hadmit]
  no_sessions hleave := by simp [asUpdate, hleave]
  jobs := rfl
  no_window := ⟨rfl, rfl, rfl⟩
  rest := ⟨rfl, rfl, rfl, rfl, rfl, rfl, rfl, rfl, rfl, rfl⟩

end UnlockInfobaseRequest

/-! ## Requests behind the messages -/

theorem LockInfobaseRequest.eq_lock_of_ofMessage
    {message : LockInfobaseRequest} {lock : LockInfobase}
    (hconverts : LockInfobase.ofMessage message = .ok lock) : lock = message.lock := by
  obtain ⟨hstart, hstop⟩ := representable_of_ofMessage hconverts
  exact Except.ok.inj (hconverts.symm.trans (LockInfobase.ofMessage_eq_ok hstart hstop))

/-- An end of a window that is only given if it is asked for. -/
theorem instantOf_ite
    (field : String) {time : Option Timestamp} (h : ∀ t ∈ time, t.Representable) (asked : Bool) :
    instantOf field (if asked then time else none) =
      .ok (if asked then time.map Timestamp.instant else none) := by
  cases asked with
  | true => exact instantOf_eq_ok field h
  | false => rfl

/-- The update of a lock that converts is the update that the lock performs. -/
theorem LockInfobaseRequest.ofMessage_asUpdate
    {message : LockInfobaseRequest} {lock : LockInfobase}
    (hconverts : LockInfobase.ofMessage message = .ok lock) :
    UpdateInfobase.ofMessage message.asUpdate = .ok lock.update := by
  obtain ⟨hstart, hstop⟩ := representable_of_ofMessage hconverts
  cases eq_lock_of_ofMessage hconverts
  simp only [UpdateInfobase.ofMessage, asUpdate, instantOf_ite _ hstart, instantOf_ite _ hstop]
  rfl

theorem UnlockInfobaseRequest.ofMessage_asUpdate (message : UnlockInfobaseRequest) :
    UpdateInfobase.ofMessage message.asUpdate = .ok (UnlockInfobase.ofMessage message).update :=
  rfl

theorem UnlockInfobase.plan_eq
    (message : UnlockInfobaseRequest) :
    Rpc.unlockInfobase.plan message =
      .ok ⟨.unlock (ofMessage message), fun outcome =>
        ⟨outcome.infobaseId, outcome.message, outcome.success⟩⟩ :=
  rfl

/-! ## Tasks that show an update -/

section Tasks

variable {σ κ : Type} (peer : Surroundings σ) (clock : κ → Instant × κ) (p : σ) (k : κ)

/-- A lock whose window passes shows its update. If an id is blank, both are refused for it. -/
theorem LockInfobase.shows_perform
    {lock : LockInfobase} {warnings : List Event}
    (hcheck : checkWindow lock.deniedFrom lock.deniedTo (clock k).1 = .ok warnings) :
    (lock.perform.outcome.run (peer.timedBy clock) (p, k)).Shows
      (lock.update.perform.outcome.run peer p) := by
  rw [perform_eq, Attempt.outcome_bind_ofOutcome]
  exact lock.update.shows_followedBy lock.prepares peer clock p k
    (lock.admission_of_checkWindow hcheck)

theorem UnlockInfobase.shows_perform (unlock : UnlockInfobase) :
    (unlock.perform.outcome.run (peer.timedBy clock) (p, k)).Shows
      (unlock.update.perform.outcome.run peer p) := by
  rw [perform_eq, Attempt.outcome_bind_ofOutcome]
  exact unlock.update.shows_followedBy unlock.prepares peer clock p k rfl

/-- The stages around a handler only log and look at the clock. -/
theorem Chain.shows_serve
    {α : Type} (call : Call) {handler : Operation (Except Status α)}
    {plain : Run σ (Except Status α)}
    (hshows : (handler.run (peer.timedBy clock) ((peer.timedBy clock).handling (p, k))).Shows
      plain) :
    ((serve standardStages call handler).run (peer.timedBy clock) (p, k)).Shows plain := by
  have hback (start : Instant) :
      ((handler.bind (wayBack call start)).run (peer.timedBy clock)
        (p, (clock (clock k).2).2)).Shows plain := by
    rw [Operation.run_bind]
    exact hshows.andThen_quiet fun result s => ⟨rfl, rfl, rfl⟩
  rw [serve_eq_wayBack]
  have hhandled := (hback (clock (clock k).2).1).after_quiet (dialogueOf_note [] .handled)
  have hstarted := hhandled.after_quiet (dialogueOf_clock [] (clock (clock k).2).1)
  have hentered := hstarted.after_quiet (dialogueOf_note [] (.entered 1))
  have hreceived := hentered.after_quiet (dialogueOf_note [] (.event (receivedEvent call)))
  have harrived := hreceived.after_quiet (dialogueOf_clock [] (clock k).1)
  exact harrived.after_quiet (dialogueOf_note [] (.entered 0))

/-- A call shows what its task shows when the stages have looked at the clock, in the words of its
answer. -/
theorem Rpc.shows_serve
    {rpc : Rpc} {message : rpc.Request} {plan : rpc.Plan} (hplan : rpc.plan message = .ok plan)
    {plain : Run σ (Except GatewayError plan.task.Result)}
    (hshows : (plan.task.perform.outcome.run (peer.timedBy clock)
      ((peer.timedBy clock).handling (p, k))).Shows plain) :
    ((rpc.serve message).run (peer.timedBy clock) (p, k)).Shows
      ⟨plain.steps, plain.outcome.map plan.answer, plain.final⟩ := by
  rw [serve]
  apply Chain.shows_serve
  rw [outcome_handle, hplan, perform?, Operation.run_bind_done]
  exact hshows.map plan.answer

/-- The call of an update that converts shows its task. -/
theorem UpdateInfobase.shows_serve
    {update : UpdateInfobaseRequest} {request : UpdateInfobase}
    (hconverts : UpdateInfobase.ofMessage update = .ok request) :
    ((Rpc.updateInfobase.serve update).run (peer.timedBy clock) (p, k)).Shows
      ⟨(request.perform.outcome.run peer p).steps,
        (request.perform.outcome.run peer p).outcome.map fun result =>
          (result.mapError GatewayError.status).map fun outcome =>
            ⟨outcome.infobaseId, outcome.message, outcome.success⟩,
        (request.perform.outcome.run peer p).final⟩ :=
  Rpc.shows_serve peer clock p k (UpdateInfobase.plan_eq_ok hconverts)
    (request.timeless_perform.shows peer clock p _)

end Tasks

/-! ## Calls that stand for an update -/

/-- A call that locks or unlocks an infobase. -/
inductive AccessChange
  | lock (message : LockInfobaseRequest)
  | unlock (message : UnlockInfobaseRequest)

namespace AccessChange

def rpc : AccessChange → Rpc
  | lock _ => .lockInfobase
  | unlock _ => .unlockInfobase

def message : (call : AccessChange) → call.rpc.Request
  | lock message => message
  | unlock message => message

/-- What the response of a call says, as the response of an update. -/
def asUpdated : (call : AccessChange) → call.rpc.Response → UpdateInfobaseResponse
  | lock _, response => ⟨response.infobaseId, response.message, response.success⟩
  | unlock _, response => ⟨response.infobaseId, response.message, response.success⟩

def CarriedBy : AccessChange → UpdateInfobaseRequest → Prop
  | lock message => message.CarriedBy
  | unlock message => message.CarriedBy

def asUpdate : AccessChange → UpdateInfobaseRequest
  | lock message => message.asUpdate
  | unlock message => message.asUpdate

/-- The times of a lock convert, and its window is accepted at the given time. -/
def AcceptedAt (now : Instant) : AccessChange → Prop
  | lock message =>
    ∃ lock, LockInfobase.ofMessage message = .ok lock ∧
      ∃ warnings, checkWindow lock.deniedFrom lock.deniedTo now = .ok warnings
  | unlock _ => True

section Same

variable {σ κ κ' : Type}

/-- The run of a call and the run of an update have the same dialogue and the same status or
response, and they leave the peer in the same state. -/
structure SameAsUpdate (call : AccessChange) (run : Run (σ × κ) (Except Status call.rpc.Response))
    (updated : Run (σ × κ') (Except Status UpdateInfobaseResponse)) : Prop where
  dialogue : dialogueOf run.steps = dialogueOf updated.steps
  outcome : run.outcome.map (Except.map call.asUpdated) = updated.outcome
  final : run.final.1 = updated.final.1

/-- Two runs that show the same task, each in the words of its own answer. -/
theorem sameAsUpdate_of_shows
    {call : AccessChange} {run : Run (σ × κ) (Except Status call.rpc.Response)}
    {updated : Run (σ × κ') (Except Status UpdateInfobaseResponse)} {α : Type} {plain : Run σ α}
    {answer : α → Except Status call.rpc.Response}
    {answer' : α → Except Status UpdateInfobaseResponse}
    (hrun : run.Shows ⟨plain.steps, plain.outcome.map answer, plain.final⟩)
    (hupdated : updated.Shows ⟨plain.steps, plain.outcome.map answer', plain.final⟩)
    (hanswer : ∀ result, (answer result).map call.asUpdated = answer' result) :
    call.SameAsUpdate run updated where
  dialogue := hrun.dialogue.trans hupdated.dialogue.symm
  outcome := by
    have hwords : Except.map call.asUpdated ∘ answer = answer' := funext hanswer
    rw [hrun.outcome, hupdated.outcome, Option.map_map, hwords]
  final := hrun.final.trans hupdated.final.symm

variable (peer : Surroundings σ) (clock : κ → Instant × κ) (clock' : κ' → Instant × κ')
  (p : σ) (k : κ) (k' : κ')

/-- A call whose window is accepted is the same as its update, whatever provider and endpoint
answer, whenever the caller withdraws and whatever the two clocks say. -/
theorem sameAsUpdate
    {call : AccessChange}
    (haccepted : call.AcceptedAt ((peer.timedBy clock).windowTime (p, k))) :
    call.SameAsUpdate ((call.rpc.serve call.message).run (peer.timedBy clock) (p, k))
      ((Rpc.updateInfobase.serve call.asUpdate).run (peer.timedBy clock') (p, k')) := by
  cases call with
  | lock message =>
    obtain ⟨lock, hconverts, warnings, hcheck⟩ := haccepted
    have hplan := LockInfobase.plan_eq message
    rw [hconverts] at hplan
    have hlock := Rpc.shows_serve peer clock p k hplan
      (LockInfobase.shows_perform peer clock p _ hcheck)
    have hupdate := UpdateInfobase.shows_serve peer clock' p k'
      (message.ofMessage_asUpdate hconverts)
    refine sameAsUpdate_of_shows hlock hupdate fun result => ?_
    cases result with
    | ok outcome => rfl
    | error error => rfl
  | unlock message =>
    have hunlock := Rpc.shows_serve peer clock p k (UnlockInfobase.plan_eq message)
      (UnlockInfobase.shows_perform peer clock p _ (UnlockInfobase.ofMessage message))
    have hupdate := UpdateInfobase.shows_serve peer clock' p k' message.ofMessage_asUpdate
    refine sameAsUpdate_of_shows hunlock hupdate fun result => ?_
    cases result with
    | ok outcome => rfl
    | error error => rfl

end Same

/-! ## Calls in a row -/

def clusterId : AccessChange → String
  | lock message => message.clusterId
  | unlock message => message.clusterId

def infobaseId : AccessChange → String
  | lock message => message.infobaseId
  | unlock message => message.infobaseId

/-- The update that a call performs if it converts. -/
def request : AccessChange → UpdateInfobase
  | lock message => message.lock.update
  | unlock message => (UnlockInfobase.ofMessage message).update

end AccessChange

/-- What can be denied to the users of an infobase. -/
inductive DenyFlag
  | sessions
  | scheduledJobs

namespace DenyFlag

/-- The value of the flag in a record. -/
def value? : DenyFlag → InfobaseInfo → Option Bool
  | sessions, record => record.sessionsDeny
  | scheduledJobs, record => record.scheduledJobsDeny

/-- What a call asks the flag to be, if it asks about it. -/
def asked? : DenyFlag → AccessChange → Option Bool
  | sessions, .lock message => if message.sessionsDeny then some true else none
  | sessions, .unlock message => if message.unlockSessions then some false else none
  | scheduledJobs, .lock message => if message.scheduledJobsDeny then some true else none
  | scheduledJobs, .unlock message => if message.unlockScheduledJobs then some false else none

/-- What a call asks the flag of one infobase to be. -/
def askedOf? (flag : DenyFlag) (clusterId infobaseId : String) (call : AccessChange) :
    Option Bool :=
  if call.clusterId = clusterId ∧ call.infobaseId = infobaseId then flag.asked? call else none

theorem value?_info_request (flag : DenyFlag) (call : AccessChange) :
    flag.value? call.request.info = flag.asked? call := by
  cases flag with
  | sessions =>
    cases call with
    | lock message => rfl
    | unlock message => rfl
  | scheduledJobs =>
    cases call with
    | lock message => rfl
    | unlock message => rfl

theorem value?_patchedBy (flag : DenyFlag) (record patch : InfobaseInfo) :
    flag.value? (record.patchedBy patch) = (flag.value? patch).or (flag.value? record) := by
  cases flag with
  | sessions =>
    have hget := InfobaseInfo.get?_patchedBy record patch .sessionsDeny
    exact hget.trans Option.or_eq_orElse.symm
  | scheduledJobs =>
    have hget := InfobaseInfo.get?_patchedBy record patch .scheduledJobsDeny
    exact hget.trans Option.or_eq_orElse.symm

end DenyFlag

namespace AccessChange

/-- Calls that come in one after the other at the service, each in a course of its own, and all
succeed. -/
inductive AllSucceed (uuids : Nat → String) : Service → List AccessChange → Service → Prop
  | none (service : Service) : AllSucceed uuids service [] service
  | next {call : AccessChange} {course : Course} {s : Situation} {response : call.rpc.Response}
      {calls : List AccessChange} {after : Service}
      (hsuccess : ((call.rpc.serve call.message).run (Service.during uuids course) s).outcome =
        some (.ok response))
      (hrest : AllSucceed uuids
        ((call.rpc.serve call.message).run (Service.during uuids course) s).final.service calls
        after) :
      AllSucceed uuids s.service (call :: calls) after

variable {uuids : Nat → String}

/-- A call that succeeds patches the record of its infobase with the update that it performs. -/
theorem patches_of_success
    {call : AccessChange} {course : Course} {s : Situation} {response : call.rpc.Response}
    (hsuccess : ((call.rpc.serve call.message).run (Service.during uuids course) s).outcome =
      some (.ok response)) :
    s.service.store.Patches
      ((call.rpc.serve call.message).run (Service.during uuids course) s).final.service.store
      call.clusterId call.infobaseId call.request.info.toAttributes := by
  cases call with
  | lock message =>
    obtain ⟨plan, hplan⟩ := Rpc.exists_plan_of_success hsuccess
    obtain ⟨lock, hconverts, rfl⟩ := Rpc.exists_of_map_eq_ok hplan
    cases LockInfobaseRequest.eq_lock_of_ofMessage hconverts
    exact Rpc.effect_of_success hplan
      (GatewayTask.settles_of_not_isCreation (s := s.later 2) not_false) hsuccess
  | unlock message =>
    exact Rpc.effect_of_success (UnlockInfobase.plan_eq message)
      (GatewayTask.settles_of_not_isCreation (s := s.later 2) not_false) hsuccess

/-- After a call that succeeds the flags of every infobase are what the call asked of them, and
otherwise as before. -/
theorem value?_of_success
    {call : AccessChange} {course : Course} {s : Situation} {response : call.rpc.Response}
    (hsuccess : ((call.rpc.serve call.message).run (Service.during uuids course) s).outcome =
      some (.ok response))
    {clusterId infobaseId : String} {record : InfobaseInfo}
    (hfound : s.service.store.infobase? clusterId infobaseId = some record) :
    ∃ changed,
      ((call.rpc.serve call.message).run
        (Service.during uuids course) s).final.service.store.infobase? clusterId infobaseId =
          some changed ∧
        ∀ flag : DenyFlag, flag.value? changed =
          (flag.askedOf? clusterId infobaseId call).or (flag.value? record) := by
  have hpatches := patches_of_success hsuccess
  by_cases hmine : call.clusterId = clusterId ∧ call.infobaseId = infobaseId
  · obtain ⟨rfl, rfl⟩ := hmine
    refine ⟨record.patchedBy call.request.info, hpatches.infobase? hfound, fun flag => ?_⟩
    rw [flag.value?_patchedBy, flag.value?_info_request, DenyFlag.askedOf?, if_pos ⟨rfl, rfl⟩]
  · refine ⟨record, (hpatches.infobase?_of_ne hmine).trans hfound, fun flag => ?_⟩
    rw [DenyFlag.askedOf?, if_neg hmine, Option.none_or]

/-- After calls that succeed each flag of an infobase is what the last call asked of it that asked
about it, and otherwise as at the start. -/
theorem value?_of_allSucceed
    {before after : Service} {calls : List AccessChange}
    (hruns : AllSucceed uuids before calls after)
    {clusterId infobaseId : String} {record : InfobaseInfo}
    (hfound : before.store.infobase? clusterId infobaseId = some record) :
    ∃ changed, after.store.infobase? clusterId infobaseId = some changed ∧
      ∀ flag : DenyFlag, flag.value? changed =
        (calls.filterMap (flag.askedOf? clusterId infobaseId)).getLast?.or
          (flag.value? record) := by
  induction hruns generalizing record with
  | none service => exact ⟨record, hfound, fun flag => rfl⟩
  | @next call course s response calls after hsuccess hrest ih =>
    obtain ⟨changed, hchanged, hfirst⟩ := value?_of_success hsuccess hfound
    obtain ⟨last, hlast, hothers⟩ := ih hchanged
    refine ⟨last, hlast, fun flag => ?_⟩
    rw [hothers flag, hfirst flag, List.filterMap_cons]
    cases flag.askedOf? clusterId infobaseId call with
    | none => rw [Option.none_or]
    | some answer =>
      dsimp only
      rw [List.getLast?_cons]
      cases (calls.filterMap (flag.askedOf? clusterId infobaseId)).getLast? with
      | none => rfl
      | some later => rfl

/-! ## Locks and unlocks are updates -/

/-- A call stands for an update: the update carries what the call asks for, and as soon as the
window of a lock is accepted, nobody can tell the two calls apart. -/
structure IsUpdate (call : AccessChange) (update : UpdateInfobaseRequest) : Prop where
  carried : call.CarriedBy update
  /-- Whatever a provider and an endpoint answer and whenever the caller withdraws, the calls have
  the same dialogue and come to the same, at any time of either call. -/
  same : ∀ {σ κ κ' : Type} (peer : Surroundings σ) (clock : κ → Instant × κ)
    (clock' : κ' → Instant × κ') (p : σ) (k : κ) (k' : κ'),
      call.AcceptedAt ((peer.timedBy clock).windowTime (p, k)) →
        call.SameAsUpdate ((call.rpc.serve call.message).run (peer.timedBy clock) (p, k))
          ((Rpc.updateInfobase.serve update).run (peer.timedBy clock') (p, k'))
  /-- At the service in memory they leave the same store. -/
  same_store : ∀ {κ κ' : Type} (uuids : Nat → String) (course : Course)
    (clock : κ → Instant × κ) (clock' : κ' → Instant × κ') (s : Situation) (k : κ) (k' : κ'),
      call.AcceptedAt (((Service.during uuids course).timedBy clock).windowTime (s, k)) →
        ((call.rpc.serve call.message).run ((Service.during uuids course).timedBy clock)
            (s, k)).final.1.service.store =
          ((Rpc.updateInfobase.serve update).run ((Service.during uuids course).timedBy clock')
            (s, k')).final.1.service.store

theorem isUpdate_asUpdate (call : AccessChange) : call.IsUpdate call.asUpdate where
  carried := by
    cases call with
    | lock message => exact message.carriedBy_asUpdate
    | unlock message => exact message.carriedBy_asUpdate
  same peer clock clock' p k k' haccepted := sameAsUpdate peer clock clock' p k k' haccepted
  same_store uuids course clock clock' s k k' haccepted := by
    have hsame := sameAsUpdate (Service.during uuids course) clock clock' s k k' haccepted
    rw [hsame.final]

/-- Every lock and every unlock stands for an update. So after calls that succeed, whatever they
ask for and wherever, each of the two flags of an infobase is what the last call asked of it that
asked about it, and without such a call it is as it was at the start. -/
theorem are_updates :
    (∀ call : AccessChange, ∃ update, call.IsUpdate update) ∧
      ∀ (uuids : Nat → String) (before after : Service) (calls : List AccessChange),
        AllSucceed uuids before calls after →
          ∀ (clusterId infobaseId : String) (record : InfobaseInfo),
            before.store.infobase? clusterId infobaseId = some record →
              ∃ changed, after.store.infobase? clusterId infobaseId = some changed ∧
                ∀ flag : DenyFlag, flag.value? changed =
                  (calls.filterMap (flag.askedOf? clusterId infobaseId)).getLast?.or
                    (flag.value? record) :=
  ⟨fun call => ⟨call.asUpdate, call.isUpdate_asUpdate⟩,
    fun _ _ _ _ hruns _ _ _ hfound => value?_of_allSucceed hruns hfound⟩

/-- Maintenance that closes an infobase for users and jobs. -/
def closing : AccessChange :=
  .lock ⟨"c-1", "ib-1", true, true, none, none, some "maintenance", some "4242", none, none⟩

/-- The end of the maintenance for users. -/
def reopening : AccessChange :=
  .unlock ⟨"c-1", "ib-1", true, false, none, none⟩

/-- Users are admitted again, and jobs are still denied. -/
theorem are_updates_closing_reopening :
    ∃ after changed,
      AllSucceed (fun _ => "ib-2") Rpc.lockedTrade.service [closing, reopening] after ∧
        after.store.infobase? "c-1" "ib-1" = some changed ∧
        changed.sessionsDeny = some false ∧ changed.scheduledJobsDeny = some true := by
  have hclosing :
      ((closing.rpc.serve closing.message).run
        (Service.during (fun _ => "ib-2") (Course.still ⟨0, 0⟩)) Rpc.lockedTrade).outcome =
          some (.ok ⟨"ib-1", "Infobase updated successfully", true⟩) := rfl
  have hreopening :
      ((reopening.rpc.serve reopening.message).run
        (Service.during (fun _ => "ib-2") (Course.still ⟨0, 0⟩))
        ((closing.rpc.serve closing.message).run
          (Service.during (fun _ => "ib-2") (Course.still ⟨0, 0⟩)) Rpc.lockedTrade).final).outcome =
          some (.ok ⟨"ib-1", "Infobase updated successfully", true⟩) := rfl
  have hruns := AllSucceed.next hclosing (AllSucceed.next hreopening (AllSucceed.none _))
  obtain ⟨changed, hchanged, hflags⟩ := are_updates.2 _ _ _ _ hruns "c-1" "ib-1"
    Rpc.lockedInfobase rfl
  exact ⟨_, changed, hruns, hchanged, hflags .sessions, hflags .scheduledJobs⟩

end AccessChange

end InfobaseGateway
