import InfobaseGateway.Proofs.Operation.Faults
import InfobaseGateway.Proofs.Rpc.Contract

/-!
# The audit record of a call

A call that runs to its end leaves one record when it comes in and one record when it is finished,
around everything that is logged while it is handled. What the second record says follows from the
message of the caller and from the result that the caller gets, which is the handler's own.
-/

namespace InfobaseGateway

namespace Rpc

/-! ## What a message says about its call -/

/-- The cluster that a message names, if its method has one. -/
def clusterId? : (rpc : Rpc) → rpc.Request → Option String
  | createInfobase, message => some message.clusterId
  | updateInfobase, message => some message.clusterId
  | dropInfobase, message => some message.clusterId
  | lockInfobase, message => some message.clusterId
  | unlockInfobase, message => some message.clusterId
  | terminateSession, message => some message.clusterId
  | authenticateAgent, _ => none
  | authenticateCluster, message => some message.clusterId
  | authenticateInfobase, message => some message.clusterId
  | getClusters, _ => none
  | getClusterInfo, message => some message.clusterId
  | getSessions, message => some message.clusterId
  | getShortInfobases, message => some message.clusterId
  | getInfobaseSessions, message => some message.clusterId

/-- The infobase that a message names, if its method has one. -/
def infobaseId? : (rpc : Rpc) → rpc.Request → Option String
  | updateInfobase, message => some message.infobaseId
  | dropInfobase, message => some message.infobaseId
  | lockInfobase, message => some message.infobaseId
  | unlockInfobase, message => some message.infobaseId
  | getInfobaseSessions, message => some message.infobaseId
  | _, _ => none

/-- The user on whose behalf a call is made, if its message names one. -/
def user? : (rpc : Rpc) → rpc.Request → Option String
  | createInfobase, message => message.clusterUser
  | updateInfobase, message => message.clusterUser
  | dropInfobase, message => message.clusterUser
  | lockInfobase, message => message.clusterUser
  | unlockInfobase, message => message.clusterUser
  | authenticateAgent, message => some message.user
  | authenticateCluster, message => some message.user
  | authenticateInfobase, message => some message.user
  | _, _ => none

end Rpc

/-- A text that is told unless it is empty. -/
def told? (text : Option String) : Option String :=
  text.filter fun text => text ≠ ""

/-- The texts of a call are told by the fields that have their roles; the fields after them add
nothing. -/
theorem presentText?_plain (text : String) :
    (match FieldKind.presentText? (.plain .text) text with
      | some text => some text
      | none => none) = told? (some text) := by
  by_cases hempty : text = ""
  · simp [FieldKind.presentText?, told?, Option.filter, hempty]
  · simp [FieldKind.presentText?, told?, Option.filter, hempty]

theorem presentText?_optional (text : Option String) :
    (match FieldKind.presentText? (.optional .text) text with
      | some text => some text
      | none => none) = told? text := by
  show (match told? text with
    | some text => some text
    | none => none) = told? text
  cases told? text with
  | none => rfl
  | some text => rfl

/-- The audit log names cluster, infobase and user as the message does. -/
theorem Rpc.metadata_call (rpc : Rpc) (message : rpc.Request) :
    (rpc.call message).metadata =
      ⟨told? (rpc.clusterId? message), told? (rpc.infobaseId? message),
        told? (rpc.user? message)⟩ := by
  have hmetadata {cluster infobase user cluster' infobase' user' : Option String}
      (hcluster : cluster = cluster') (hinfobase : infobase = infobase') (huser : user = user') :
      AuditMetadata.mk cluster infobase user = ⟨cluster', infobase', user'⟩ := by
    rw [hcluster, hinfobase, huser]
  have hplain := presentText?_plain
  have hoptional := presentText?_optional
  cases rpc with
  | createInfobase => exact hmetadata (hplain _) rfl (hoptional _)
  | updateInfobase => exact hmetadata (hplain _) (hplain _) (hoptional _)
  | dropInfobase => exact hmetadata (hplain _) (hplain _) (hoptional _)
  | lockInfobase => exact hmetadata (hplain _) (hplain _) (hoptional _)
  | unlockInfobase => exact hmetadata (hplain _) (hplain _) (hoptional _)
  | authenticateAgent => exact hmetadata rfl rfl (hplain _)
  | authenticateCluster => exact hmetadata (hplain _) rfl (hplain _)
  | authenticateInfobase => exact hmetadata (hplain _) rfl (hplain _)
  | getClusters => rfl
  | getInfobaseSessions => exact hmetadata (hplain _) (hplain _) rfl
  | _ => exact hmetadata (hplain _) rfl rfl

/-! ## What the record of a finished call says -/

/-- The message of an audit record, by its level. -/
def recordMessage : Level → String
  | .error => "gRPC operation failed"
  | .warn => "gRPC destructive operation"
  | _ => "gRPC operation completed"

/-- The status of a call that failed. -/
def failure? {α : Type} : Except Status α → Option Status
  | .ok _ => none
  | .error status => some status

namespace Rpc

/-- The audit record of a call with a message and a result. -/
structure Records (rpc : Rpc) (message : rpc.Request) (result : Except Status rpc.Response)
    (record : Event) : Prop where
  error_iff : record.level = .error ↔ ∃ status, result = .error status
  warn_iff : record.level = .warn ↔ (∃ response, result = .ok response) ∧ rpc = .dropInfobase
  info_iff : record.level = .info ↔ (∃ response, result = .ok response) ∧ rpc ≠ .dropInfobase
  message_eq : record.message = recordMessage record.level
  operation_eq : record.field? "operation" = some rpc.path
  error_eq : record.field? "error" = (failure? result).map Status.message
  code_eq : record.field? "grpc_code" = (failure? result).map fun status => status.code.name
  cluster_eq : record.field? "cluster_id" = told? (rpc.clusterId? message)
  infobase_eq : record.field? "infobase_id" = told? (rpc.infobaseId? message)
  user_eq : record.field? "user" = told? (rpc.user? message)

theorem path_mem_destructiveMethods_iff (rpc : Rpc) :
    rpc.path ∈ destructiveMethods ↔ rpc = .dropInfobase := by
  cases rpc with
  | _ => decide +kernel

/-- The fields of an audit record. -/
def auditFields (rpc : Rpc) (message : rpc.Request) (passage : Passage) (millis : Nat) :
    EventFields :=
  [("operation", rpc.path), ("duration_ms", toString millis), ("result", resultName passage)]
    ++ optionalField "cluster_id" (told? (rpc.clusterId? message))
    ++ optionalField "infobase_id" (told? (rpc.infobaseId? message))
    ++ optionalField "user" (told? (rpc.user? message)) ++ failureFields passage

/-- The fields of an audit record are found by their names. -/
theorem field?_auditFields
    (rpc : Rpc) (message : rpc.Request) (passage : Passage) (millis : Nat)
    (level : Level) (text : String) :
    let record : Event := ⟨level, text, rpc.auditFields message passage millis⟩
    record.field? "operation" = some rpc.path ∧
      record.field? "error" = (failure? passage).map Status.message ∧
      record.field? "grpc_code" = (failure? passage).map (fun status => status.code.name) ∧
      record.field? "cluster_id" = told? (rpc.clusterId? message) ∧
      record.field? "infobase_id" = told? (rpc.infobaseId? message) ∧
      record.field? "user" = told? (rpc.user? message) := by
  unfold auditFields
  generalize told? (rpc.clusterId? message) = cluster
  generalize told? (rpc.infobaseId? message) = infobase
  generalize told? (rpc.user? message) = user
  -- Which optional fields are there decides where the others stand.
  cases cluster with
  | _ =>
    cases infobase with
    | _ =>
      cases user with
      | _ =>
        cases passage with
        | _ => exact ⟨rfl, rfl, rfl, rfl, rfl, rfl⟩

/-- The level of the audit record of a call. -/
def recordLevel (rpc : Rpc) (result : Except Status rpc.Response) : Level :=
  match result with
  | .error _ => .error
  | .ok _ => if rpc = .dropInfobase then .warn else .info

theorem auditEvent_call
    (rpc : Rpc) (message : rpc.Request) (result : Except Status rpc.Response) (millis : Nat) :
    auditEvent (rpc.call message) (Chain.passage result) millis =
      ⟨rpc.recordLevel result, recordMessage (rpc.recordLevel result),
        rpc.auditFields message (Chain.passage result) millis⟩ := by
  have hmetadata := rpc.metadata_call message
  cases result with
  | error status =>
    show (⟨.error, "gRPC operation failed", _⟩ : Event) = _
    rw [hmetadata]
    rfl
  | ok response =>
    show (if rpc.path ∈ destructiveMethods then (⟨.warn, "gRPC destructive operation", _⟩ : Event)
      else ⟨.info, "gRPC operation completed", _⟩) = _
    rw [hmetadata]
    by_cases hdrop : rpc = .dropInfobase
    · rw [if_pos ((path_mem_destructiveMethods_iff rpc).mpr hdrop), recordLevel, if_pos hdrop]
      rfl
    · rw [if_neg (mt (path_mem_destructiveMethods_iff rpc).mp hdrop), recordLevel, if_neg hdrop]
      rfl

theorem recordLevel_iff (rpc : Rpc) (result : Except Status rpc.Response) :
    (rpc.recordLevel result = .error ↔ ∃ status, result = .error status) ∧
      (rpc.recordLevel result = .warn ↔
        (∃ response, result = .ok response) ∧ rpc = .dropInfobase) ∧
      (rpc.recordLevel result = .info ↔
        (∃ response, result = .ok response) ∧ rpc ≠ .dropInfobase) := by
  cases result with
  | error status => simp [recordLevel]
  | ok response =>
    by_cases hdrop : rpc = .dropInfobase
    · simp [recordLevel, hdrop]
    · simp [recordLevel, hdrop]

theorem records_auditEvent
    (rpc : Rpc) (message : rpc.Request) (result : Except Status rpc.Response) (millis : Nat) :
    rpc.Records message result (auditEvent (rpc.call message) (Chain.passage result) millis) := by
  have hfailure : failure? (Chain.passage result) = failure? result := by
    cases result with
    | ok value => rfl
    | error status => rfl
  obtain ⟨herrorLevel, hwarnLevel, hinfoLevel⟩ := rpc.recordLevel_iff result
  obtain ⟨hoperation, herror, hcode, hcluster, hinfobase, huser⟩ :=
    rpc.field?_auditFields message (Chain.passage result) millis (rpc.recordLevel result)
      (recordMessage (rpc.recordLevel result))
  rw [hfailure] at herror hcode
  rw [auditEvent_call]
  exact ⟨herrorLevel, hwarnLevel, hinfoLevel, rfl, hoperation, herror, hcode, hcluster, hinfobase,
    huser⟩

end Rpc

/-! ## The log of a call -/

namespace Chain

variable {σ α : Type}

/-- A call that runs to its end logs what comes in, then what is logged while it is handled, and
then its audit record. -/
theorem events_serve
    (call : Call) (handler : Operation (Except Status α)) (S : Surroundings σ) (s : σ)
    {result : Except Status α}
    (hresult : (handler.run S (S.clock (S.clock s).2).2).outcome = some result) :
    ∃ millis,
      ((serve standardStages call handler).run S s).events =
          receivedEvent call :: (handler.run S (S.clock (S.clock s).2).2).events
            ++ [auditEvent call (passage result) millis] ∧
        (serve standardStages call handler).ownEvents S s =
          receivedEvent call :: handler.ownEvents S (S.clock (S.clock s).2).2
            ++ [auditEvent call (passage result) millis] := by
  refine ⟨millisBetween (S.clock (S.clock s).2).1
    (S.clock (handler.run S (S.clock (S.clock s).2).2).final).1, ?_, ?_⟩
  · rw [serve_eq_wayBack]
    simp only [Run.events_eq_eventsOf, Operation.run, Operation.run_bind, Run.andThen, hresult,
      Run.after_steps, eventsOf_append, wayBack]
    rfl
  · rw [serve_eq_wayBack]
    simp only [Operation.ownEvents_note, Operation.ownEvents_clock, Operation.ownEvents_bind,
      hresult, wayBack]
    rfl

/-- The stages hand the result of the handler on, and leave a call unfinished that its handler does
not finish. -/
theorem outcome_run_serve
    (call : Call) (handler : Operation (Except Status α)) (S : Surroundings σ) (s : σ) :
    ((serve standardStages call handler).run S s).outcome =
      (handler.run S (S.clock (S.clock s).2).2).outcome := by
  rw [serve_eq_wayBack]
  simp only [Operation.run, Operation.run_bind, Run.andThen, Run.after_outcome]
  cases (handler.run S (S.clock (S.clock s).2).2).outcome with
  | none => rfl
  | some result => rfl

end Chain

namespace Rpc

/-- A handler leaves none of the records of the stages. -/
theorem isOfStage_handle {σ : Type}
    (rpc : Rpc) (message : rpc.Request) (S : Surroundings σ) (s : σ) :
    ∀ event ∈ (rpc.handle message).outcome.ownEvents S s, event.isOfStage = false := by
  rw [outcome_handle]
  cases rpc.plan message with
  | error error => exact List.forall_mem_nil _
  | ok plan =>
    simp only [perform?, Operation.ownEvents_bind, Operation.ownEvents_done]
    cases (plan.task.perform.outcome.run S s).outcome with
    | none =>
      rw [List.append_nil]
      exact plan.task.reports_perform.isOfStage_eq_false s
    | some result =>
      rw [List.append_nil]
      exact plan.task.reports_perform.isOfStage_eq_false s

end Rpc

/-- The record of a request that comes in. -/
def Event.isReceived (event : Event) : Bool :=
  event.message = "received gRPC request"

/-- An audit record. -/
def Event.isAuditRecord (event : Event) : Bool :=
  event.message ∈
    ["gRPC operation failed", "gRPC destructive operation", "gRPC operation completed"]

theorem Event.isOfStage_eq (event : Event) :
    event.isOfStage = (event.isReceived || event.isAuditRecord) := by
  simp [isOfStage, isReceived, isAuditRecord, stageMessages]

namespace Rpc

/-- The log of a call that ran to its end. What is logged while it is handled stands between the
record of the request and the audit record, and of either record there is one. The records of the
call itself are `own`; `events` has those of provider and endpoint besides. -/
structure Logged (rpc : Rpc) (message : rpc.Request) (result : Except Status rpc.Response)
    (received record : Event) (handled own events : List Event) : Prop where
  received_eq : received.level = .debug ∧ received.message = "received gRPC request"
  records : rpc.Records message result record
  events_eq : events = received :: handled ++ [record]
  received_once : own.filter Event.isReceived = [received]
  recorded_once : own.filter Event.isAuditRecord = [record]

theorem isAuditRecord_auditEvent
    (rpc : Rpc) (message : rpc.Request) (result : Except Status rpc.Response) (millis : Nat) :
    (auditEvent (rpc.call message) (Chain.passage result) millis).isAuditRecord = true ∧
      (auditEvent (rpc.call message) (Chain.passage result) millis).isReceived = false := by
  rw [auditEvent_call]
  cases rpc.recordLevel result with
  | _ => exact ⟨rfl, rfl⟩

/-- A filter that drops all that is logged while a call is handled sees only the records around
it. -/
theorem filter_enclosed
    {isOne : Event → Bool} (received record : Event) {handled : List Event}
    (hhandled : ∀ event ∈ handled, isOne event = false) :
    (received :: handled ++ [record]).filter isOne = [received, record].filter isOne := by
  have hnone : handled.filter isOne = [] :=
    List.filter_eq_nil_iff.mpr fun event hevent => by simp [hhandled event hevent]
  rw [List.cons_append, List.filter_cons, List.filter_append, hnone, List.nil_append,
    ← List.filter_cons]

/-- Every call is recorded once, and its record agrees with what its caller gets: whatever the
surroundings answer and whenever the caller withdraws, the result of the call is the handler's own,
and a call that runs to its end is logged with it. -/
theorem recorded {σ : Type}
    (rpc : Rpc) (message : rpc.Request) (S : Surroundings σ) (s : σ) :
    let handled := (rpc.handle message).outcome.run S (S.clock (S.clock s).2).2
    let run := (rpc.serve message).run S s
    run.outcome = handled.outcome ∧
      ∀ result, run.outcome = some result → ∃ received record,
        rpc.Logged message result received record handled.events
          ((rpc.serve message).ownEvents S s) run.events := by
  intro handled run
  have houtcome : run.outcome = handled.outcome := Chain.outcome_run_serve _ _ S s
  refine ⟨houtcome, fun result hresult => ?_⟩
  obtain ⟨millis, hevents, hown⟩ :=
    Chain.events_serve (rpc.call message) (rpc.handle message).outcome S s
      (houtcome.symm.trans hresult)
  have hreceived : (receivedEvent (rpc.call message)).isReceived = true := rfl
  have hnoRecord : (receivedEvent (rpc.call message)).isAuditRecord = false := rfl
  obtain ⟨hrecord, hnotReceived⟩ := rpc.isAuditRecord_auditEvent message result millis
  have hhandler (event : Event)
      (hevent : event ∈ (rpc.handle message).outcome.ownEvents S (S.clock (S.clock s).2).2) :
      event.isReceived = false ∧ event.isAuditRecord = false := by
    have hstage := rpc.isOfStage_handle message S _ event hevent
    rwa [Event.isOfStage_eq, Bool.or_eq_false_iff] at hstage
  have hserve : (rpc.serve message).ownEvents S s = _ := hown
  refine ⟨_, _, ⟨rfl, rfl⟩, rpc.records_auditEvent message result millis, hevents, ?_, ?_⟩
  · rw [hserve, filter_enclosed _ _ fun event hevent => (hhandler event hevent).1,
      List.filter_cons_of_pos hreceived, List.filter_cons_of_neg (by simp [hnotReceived])]
    rfl
  · rw [hserve, filter_enclosed _ _ fun event hevent => (hhandler event hevent).2,
      List.filter_cons_of_neg (by simp [hnoRecord]), List.filter_cons_of_pos hrecord]
    rfl

end Rpc

end InfobaseGateway
