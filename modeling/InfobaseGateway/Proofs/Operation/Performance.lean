import InfobaseGateway.Proofs.Operation.Admission
import InfobaseGateway.Proofs.Operation.Creation
import InfobaseGateway.Proofs.Operation.Procedure
import InfobaseGateway.Proofs.Operation.Removal

/-!
# What the tasks perform

Every task prepares itself and then follows its procedure. Here the tree of each operation is read
off its definition, once for all that is said about it elsewhere. An update, a lock and an
unlock have the same procedure; a removal has one for the mode that is supported, because it refuses
the others; a creation is the one task with a search.
-/

namespace InfobaseGateway

/-! ## Round trips -/

namespace UpdateInfobase

variable (request : UpdateInfobase)

def procedure : Procedure LifecycleOutcome :=
  .roundTrip "UpdateInfobase" (.updateInfobase request.info)
    (fun error =>
      [requestFailure "UpdateInfobase" request.clusterId (some request.infobaseId) error])
    [⟨.info, "infobase updated", idFields request.clusterId request.infobaseId⟩]
    fun _ => ⟨request.infobaseId, none, "Infobase updated successfully", true⟩

theorem perform_eq :
    request.perform = (do request.preparation; .ofOutcome request.procedure.program) := by
  simp only [perform, preparation, procedure, bind_assoc, ← Dispatch.exchange_eq_roundTrip]

theorem outcome_perform :
    request.perform.outcome =
      request.preparation.outcome.followedBy request.procedure.program := by
  rw [perform_eq, Attempt.outcome_bind_ofOutcome]

theorem concludes {excused : Prop} : request.procedure.Concludes excused :=
  Procedure.concludes_roundTrip ..

end UpdateInfobase

namespace LockInfobase

variable (lock : LockInfobase)

theorem perform_eq :
    lock.perform = (do lock.preparation; .ofOutcome lock.update.procedure.program) := by
  simp only [perform, preparation, UpdateInfobase.perform_eq, bind_assoc]

end LockInfobase

namespace UnlockInfobase

variable (unlock : UnlockInfobase)

theorem perform_eq :
    unlock.perform = (do unlock.preparation; .ofOutcome unlock.update.procedure.program) := by
  simp only [perform, preparation, UpdateInfobase.perform_eq, bind_assoc]

end UnlockInfobase

namespace TerminateSession

variable (request : TerminateSession)

def procedure : Procedure Unit :=
  .roundTrip "TerminateSession" (.terminateSession request.session) request.failureEvents
    [⟨.info, "session terminated", request.fields⟩] fun _ => ()

theorem perform_eq :
    request.perform = (do request.preparation; .ofOutcome request.procedure.program) := by
  simp only [perform, preparation, procedure, bind_assoc, ← Dispatch.exchange_eq_roundTrip,
    bind_pure_unit]

theorem concludes {excused : Prop} : request.procedure.Concludes excused :=
  Procedure.concludes_roundTrip ..

end TerminateSession

/-- The procedure of a question: its answer is handed on as it is. -/
def Query.procedure (request : EndpointRequest) (clusterId : Option String) :
    Procedure request.expects.Content :=
  .roundTrip request.name request (Query.failureEvents request.name clusterId) [] id

theorem Query.concludes {excused : Prop} (request : EndpointRequest) (clusterId : Option String) :
    (Query.procedure request clusterId).Concludes excused :=
  Procedure.concludes_roundTrip ..

theorem Query.ask_eq (request : EndpointRequest) (clusterId : Option String) :
    Query.ask request clusterId = .ofOutcome (Query.procedure request clusterId).program := by
  have hquiet (content : request.expects.Content) :
      (do Attempt.log []; return content : GatewayAttempt request.expects.Content) =
        pure content := rfl
  rw [procedure, ← Dispatch.exchange_eq_roundTrip]
  simp only [id, hquiet, bind_pure, ask]

theorem Query.ensure_ask_eq
    (check : Except ValidationError Unit) (request : EndpointRequest) (clusterId : Option String) :
    (do ensure check; Query.ask request clusterId) =
      (do ensure check; .ofOutcome (Query.procedure request clusterId).program) := by
  simp only [ask_eq]

namespace Authenticate

variable (request : Authenticate)

def procedure : Procedure Unit :=
  .roundTrip (EndpointRequest.authenticate request).name (.authenticate request)
    (Query.failureEvents (EndpointRequest.authenticate request).name request.scope.clusterId?)
    [⟨.info, "authenticated", request.fields⟩] fun _ => ()

theorem perform_eq :
    request.perform = (do request.preparation; .ofOutcome request.procedure.program) := by
  simp only [perform, preparation, procedure, bind_assoc, ← Dispatch.exchange_eq_roundTrip,
    bind_pure_unit]
  rfl

theorem concludes {excused : Prop} : request.procedure.Concludes excused :=
  Procedure.concludes_roundTrip ..

end Authenticate

/-! ## Removals -/

namespace DropInfobase

variable (request : DropInfobase)

/-- The procedure of a removal. Whatever its end is, it leaves a closing record. -/
def procedure : Procedure LifecycleOutcome where
  envelope := .unregisterInfobase request.info
  setbackRecords
    | .withdrawn .beforeEndpoint =>
      { events := [request.cancelled .unregisterOnly "before endpoint acquisition"] }
    | .withdrawn .beforeEnvelope =>
      { events := [request.cancelled .unregisterOnly "before RAS request"] }
    | .unequipped text =>
      { events := [Dispatch.acquireFailure "DropInfobase" (.ofText text)]
        stamped? := some (request.failed .unregisterOnly (.endpoint (.ofText text))) }
    | .unanswered error => { stamped? := some (request.failed .unregisterOnly error) }
  conclude _ := ⟨{ stamped? := some (request.completed .unregisterOnly) }, .ok request.dropped⟩
  abandoned := [request.cancelled .unregisterOnly "abandoned in flight"]

theorem unregister_eq :
    (request.unregister .unregisterOnly).outcome.onAbandon
        [request.cancelled .unregisterOnly "abandoned in flight"] =
      request.procedure.program := by
  rw [unregister, outcome_auditedCheckpoint_bind]
  show Operation.checkpoint _ = Operation.checkpoint _
  congr 1
  funext cancelled
  cases cancelled with
  | true => rfl
  | false =>
    simp only [Bool.false_eq_true, if_false]
    rw [outcome_auditedAcquire_bind]
    show Operation.acquire _ _ = Operation.acquire _ _
    congr 1
    funext reply
    cases reply with
    | error text => rfl
    | ok =>
      dsimp only
      rw [outcome_auditedCheckpoint_bind]
      show Operation.checkpoint _ = Operation.checkpoint _
      congr 1
      funext cancelled
      cases cancelled with
      | true => rfl
      | false =>
        simp only [Bool.false_eq_true, if_false]
        rw [outcome_auditedSend_bind]
        show Operation.send _ _ _ = Operation.send _ _ _
        congr 1
        funext reply
        simp only [Procedure.closing, procedure]
        cases Dispatch.receive (.unregisterInfobase request.info) reply with
        | ok content => rfl
        | error error => rfl

theorem perform_eq :
    request.perform = (do request.preparation; .ofOutcome request.procedure.program) := by
  simp only [perform, preparation, bind_assoc]
  congr 1
  funext mode
  by_cases hmode : mode = .unregisterOnly
  · subst hmode
    simp only [ne_eq, not_true_eq_false, if_false, request.unregister_eq, bind_assoc]
  · simp only [if_pos hmode, bind_assoc]
    rfl

/-- A removal in the mode that is supported: it is announced, and then it is carried out. -/
theorem outcome_perform
    {request : DropInfobase} (hvalidate : request.validate = .ok .unregisterOnly) :
    request.perform.outcome =
      .clock fun now =>
        .note (.event (request.requested .unregisterOnly now)) request.procedure.program := by
  rw [perform_eq, Attempt.outcome_bind_ofOutcome, preparation, hvalidate, outcome_ensure_bind]
  rfl

theorem concludes {excused : Prop} : request.procedure.Concludes excused where
  found _ hsearch := nomatch hsearch
  answered _ := .inl ⟨request.dropped, rfl⟩

end DropInfobase

/-! ## Creations -/

namespace CreateInfobase

variable (request : CreateInfobase)

/-- The lookup of a creation. -/
def search : Search LifecycleOutcome where
  envelope := .getInfobasesShort request.clusterId
  failureEvents := request.lookupFailure
  finding? infobases :=
    (request.existing? infobases).map fun existing =>
      ⟨{ events := [request.found existing] }, .ok (foundOutcome existing)⟩

/-- The end of a creation after the answer to its second request. -/
def closing (record : InfobaseInfo) : Closing LifecycleOutcome where
  records :=
    match request.ending record with
    | .ok outcome => { events := [request.created outcome.infobaseId] }
    | .error _ => {}
  result := request.ending record

def procedure : Procedure LifecycleOutcome where
  search? := some request.search
  envelope := .createInfobase request.info
  setbackRecords
    | .withdrawn _ => {}
    | .unequipped text => { events := [Dispatch.acquireFailure "CreateInfobase" (.ofText text)] }
    | .unanswered error =>
      { events := [requestFailure "CreateInfobase" request.clusterId none error] }
  conclude := request.closing

theorem outcome_createNew : request.createNew.outcome = request.procedure.asking := by
  rw [createNew, Dispatch.outcome_checkpoint_bind, Dispatch.outcome_send_bind]
  simp only [Procedure.asking, Procedure.looking, Procedure.closing, procedure]
  congr 1
  funext cancelled
  cases cancelled with
  | true => rfl
  | false =>
    simp only [Bool.false_eq_true, if_false]
    congr 1
    funext reply
    cases Dispatch.receive (.createInfobase request.info) reply with
    | error error => rfl
    | ok record =>
      simp only [closing, ending]
      cases record.uuid with
      | none => rfl
      | some infobaseId =>
        by_cases hempty : infobaseId = ""
        · simp only [if_pos hempty]
          rfl
        · simp only [if_neg hempty]
          rfl

theorem perform_eq :
    request.perform = (do request.preparation; .ofOutcome request.procedure.program) := by
  simp only [perform, preparation, bind_assoc]
  congr 1
  funext dbms
  congr 1
  funext _
  show Attempt.outcome _ = Procedure.program _
  simp only [Dispatch.outcome_checkpoint_bind, Dispatch.outcome_acquire_bind, outcome_lookup_bind,
    Procedure.program, Procedure.looking, Procedure.acquiring, Procedure.searching, procedure]
  congr 1
  funext cancelled
  cases cancelled with
  | true => rfl
  | false =>
    simp only [Bool.false_eq_true, if_false]
    congr 1
    funext reply
    cases reply with
    | error text => rfl
    | ok =>
      dsimp only
      congr 1
      funext reply
      simp only [Search.onwards, Search.closing?, search]
      cases Dispatch.receive (.getInfobasesShort request.clusterId) reply with
      | ok infobases =>
        dsimp only
        cases request.existing? infobases with
        | some existing => rfl
        | none => exact request.outcome_createNew
      | error error =>
        by_cases hcode : error.code = .notFound
        · simp only [if_pos hcode, lookupFailure]
          exact request.outcome_createNew
        · simp only [if_neg hcode]
          rfl

/-- A creation succeeds with what it finds, and with a record that has the id. -/
theorem concludes {excused : Prop} (hexcused : excused) :
    request.procedure.Concludes excused where
  found := by
    rintro search ⟨⟩ infobases closing hfinding
    obtain ⟨existing, -, rfl⟩ := Option.map_eq_some_iff.mp hfinding
    exact ⟨foundOutcome existing, rfl⟩
  answered record := by
    show (∃ value, request.ending record = .ok value) ∨
      excused ∧ request.ending record = .error .missingInfobaseId
    rcases request.ending_cases record with ⟨infobaseId, -, -, hok⟩ | hmissing
    · exact .inl ⟨_, hok⟩
    · exact .inr ⟨hexcused, hmissing⟩

end CreateInfobase

/-! ## All tasks -/

namespace GatewayTask

def procedure : (task : GatewayTask) → Procedure task.Result
  | create request => request.procedure
  | update request => request.procedure
  | drop request => request.procedure
  | lock request => request.update.procedure
  | unlock request => request.update.procedure
  | terminate request => request.procedure
  | authenticate request => request.procedure
  | clusters => Query.procedure .getClusters none
  | cluster clusterId => Query.procedure (.getClusterInfo clusterId) (some clusterId)
  | sessions clusterId => Query.procedure (.getSessions clusterId) (some clusterId)
  | infobases clusterId => Query.procedure (.getInfobasesShort clusterId) (some clusterId)
  | infobaseSessions clusterId infobaseId =>
    Query.procedure (.getInfobaseSessions clusterId infobaseId) (some clusterId)

theorem perform_eq (task : GatewayTask) :
    task.perform = (do task.preparation; .ofOutcome task.procedure.program) := by
  cases task with
  | create request => exact request.perform_eq
  | update request => exact request.perform_eq
  | drop request => exact request.perform_eq
  | lock request => exact request.perform_eq
  | unlock request => exact request.perform_eq
  | terminate request => exact request.perform_eq
  | authenticate request => exact request.perform_eq
  | clusters => exact Query.ask_eq _ _
  | cluster clusterId | sessions clusterId | infobases clusterId =>
    exact Query.ensure_ask_eq _ _ _
  | infobaseSessions clusterId infobaseId =>
    exact Query.ensure_ask_eq _ _ _

/-- Every task prepares itself and then follows its procedure. -/
theorem outcome_perform (task : GatewayTask) :
    task.perform.outcome = task.preparation.outcome.followedBy task.procedure.program := by
  rw [perform_eq, Attempt.outcome_bind_ofOutcome]

theorem envelope_procedure (task : GatewayTask) : task.procedure.envelope = task.envelope := by
  cases task with
  | _ => rfl

/-- Only a creation has a search. -/
theorem search?_eq_none {task : GatewayTask} (hother : ¬task.IsCreation) :
    task.procedure.search? = none := by
  cases task with
  | create request => exact absurd ⟨request, rfl⟩ hother
  | _ => rfl

/-- Only a creation can miss the id of its infobase in an answer. -/
theorem concludes (task : GatewayTask) : task.procedure.Concludes task.IsCreation := by
  cases task with
  | create request => exact request.concludes ⟨request, rfl⟩
  | update request => exact request.concludes
  | drop request => exact request.concludes
  | lock request => exact request.update.concludes
  | unlock request => exact request.update.concludes
  | terminate request => exact request.concludes
  | authenticate request => exact request.concludes
  | clusters => exact Query.concludes _ _
  | cluster clusterId | sessions clusterId | infobases clusterId => exact Query.concludes _ _
  | infobaseSessions clusterId infobaseId => exact Query.concludes _ _

/-- A task that is not turned down runs as its procedure does, from the state that its reading of
the clock left behind. -/
theorem exists_run_perform {σ : Type}
    {task : GatewayTask} {S : Surroundings σ} {s : σ} (hadmitted : ¬task.Refused (S.clock s).1) :
    ∃ steps, dialogueOf steps = [] ∧
      task.perform.outcome.run S s =
        (task.procedure.program.run S (S.afterReading task.readsClock s)).after steps := by
  rw [outcome_perform]
  exact task.prepares.exists_run_followedBy (admission_eq_ok hadmitted) task.procedure.program

end GatewayTask

end InfobaseGateway
