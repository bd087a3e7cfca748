import InfobaseGateway.Proofs.Classification
import InfobaseGateway.Proofs.Request.Convertible
import InfobaseGateway.Proofs.Rpc.Effect

/-!
# The status of a call

A call at the service in memory whose caller never withdraws is decided in a fixed order: by its
form, by its mode if it is a removal, by its addressee, and by its credentials. The first of these
that fails gives the status. The codes travel through free text that quotes the caller's ids, and
still no id can turn one status into another.
-/

namespace InfobaseGateway

/-! ## Decisions in order -/

/-- The status code of a call that failed. -/
def failureCode? {α : Type} : Except Status α → Option StatusCode
  | .ok _ => none
  | .error status => some status.code

/-- The codes that no call at the service in memory ends with. -/
def unreachableCodes : List StatusCode :=
  [.internal, .alreadyExists, .permissionDenied, .unavailable, .resourceExhausted,
    .failedPrecondition]

/-- How four conditions decide a failure, the first one that holds before all others. -/
structure Decided (invalid unsupported missing refused : Prop) (failure : Option StatusCode) :
    Prop where
  invalidArgument_iff : failure = some .invalidArgument ↔ invalid
  unimplemented_iff : failure = some .unimplemented ↔ ¬invalid ∧ unsupported
  notFound_iff : failure = some .notFound ↔ ¬invalid ∧ ¬unsupported ∧ missing
  unauthenticated_iff :
    failure = some .unauthenticated ↔ ¬invalid ∧ ¬unsupported ∧ ¬missing ∧ refused
  success_iff : failure = none ↔ ¬invalid ∧ ¬unsupported ∧ ¬missing ∧ ¬refused
  reachable : ∀ code ∈ unreachableCodes, failure ≠ some code

namespace Decided

variable {invalid unsupported missing refused : Prop}

theorem of_invalid (hinvalid : invalid) :
    Decided invalid unsupported missing refused (some .invalidArgument) := by
  constructor
  case reachable => decide
  all_goals simp [hinvalid]

theorem of_unsupported (hvalid : ¬invalid) (hunsupported : unsupported) :
    Decided invalid unsupported missing refused (some .unimplemented) := by
  constructor
  case reachable => decide
  all_goals simp [hvalid, hunsupported]

theorem of_missing (hvalid : ¬invalid) (hsupported : ¬unsupported) (hmissing : missing) :
    Decided invalid unsupported missing refused (some .notFound) := by
  constructor
  case reachable => decide
  all_goals simp [hvalid, hsupported, hmissing]

theorem of_refused
    (hvalid : ¬invalid) (hsupported : ¬unsupported) (hstored : ¬missing) (hrefused : refused) :
    Decided invalid unsupported missing refused (some .unauthenticated) := by
  constructor
  case reachable => decide
  all_goals simp [hvalid, hsupported, hstored, hrefused]

theorem of_success
    (hvalid : ¬invalid) (hsupported : ¬unsupported) (hstored : ¬missing)
    (hadmitted : ¬refused) :
    Decided invalid unsupported missing refused none := by
  constructor
  case reachable => decide
  all_goals simp [hvalid, hsupported, hstored, hadmitted]

end Decided

/-! ## The decision of a task -/

namespace GatewayTask

variable {uuids : Nat → String} {clock : Nat → Instant} {task : GatewayTask} {now : Instant}
  {before : Service}

/-- The status code of a task that failed. -/
def taskFailureCode? {α : Type} : Except GatewayError α → Option StatusCode
  | .ok _ => none
  | .error error => some error.code.status

/-- A task that comes to its exchange is decided by what the service holds. -/
theorem decided_of_exchanged
    (hvalid : task.Valid now) (hsupported : ¬task.Unsupported)
    {result : Except GatewayError task.Result} {after : Situation}
    (hexchanged :
      Exchanged uuids (Course.steadfast clock) task.envelope before (result, after)) :
    Decided (¬task.Valid now) task.Unsupported (¬task.envelope.TargetStored before.store)
      (¬task.envelope.Admitted before.store) (taskFailureCode? result) := by
  have hexplains := before.store.explains_handle (uuids before.issued) task.envelope
  cases hexchanged with
  | withdrawn hcode hwithdrawn hsame => cases hwithdrawn
  | @rejected rejection hhandle hname after hsame =>
    rw [hhandle] at hexplains
    have hclassified :
        taskFailureCode?
            (.error (.endpoint (.ofText rejection.message)) : Except GatewayError task.Result) =
          some (categoryOf rejection.message).status := by
      rw [← EndpointError.code_ofText]
      rfl
    rw [hclassified]
    rcases hexplains with
      ⟨hmissing, hstored⟩ | ⟨hisName, -⟩ | ⟨⟨scope, rfl⟩, hstored, hrefused⟩
    · rw [Rejection.categoryOf_message_of_isMissing hmissing]
      exact .of_missing (not_not_intro hvalid) hsupported hstored
    · exact absurd hisName hname
    · rw [Rejection.categoryOf_message_wrongCredentials]
      exact .of_refused (not_not_intro hvalid) hsupported (not_not_intro hstored) hrefused
  | answered hhandle result hafter =>
    rw [hhandle] at hexplains
    obtain ⟨-, hstored, hadmitted⟩ := hexplains
    exact .of_success (not_not_intro hvalid) hsupported (not_not_intro hstored)
      (not_not_intro hadmitted)

/-- A creation is no check of credentials. -/
theorem admitted_of_isCreation
    {request : EndpointRequest} (hcreation : request.IsCreation) (store : Store) :
    request.Admitted store := by
  cases request with
  | authenticate auth => exact hcreation.elim
  | _ => trivial

theorem not_unsupported_of_isCreation (hcreation : task.envelope.IsCreation) :
    ¬task.Unsupported := by
  cases task with
  | drop request => exact hcreation.elim
  | _ => exact id

/-- The status of a task is decided by its form, its mode, its addressee and its credentials. -/
theorem Settles.decided
    {result : Except GatewayError task.Result} {after : Situation}
    (h : task.Settles uuids (Course.steadfast clock) now before (result, after)) :
    Decided (¬task.Valid now) task.Unsupported (¬task.envelope.TargetStored before.store)
      (¬task.envelope.Admitted before.store) (taskFailureCode? result) := by
  cases h with
  | invalid hinvalid error hsame => exact .of_invalid hinvalid
  | unsupported hvalid hunsupported mode hsame =>
    exact .of_unsupported (not_not_intro hvalid) hunsupported
  | exchanged hvalid hsupported hexchanged =>
    exact decided_of_exchanged hvalid hsupported hexchanged
  | found hvalid hcreation hstored result hsame =>
    have hadmitted := admitted_of_isCreation hcreation before.store
    exact .of_success (not_not_intro hvalid) (not_unsupported_of_isCreation hcreation)
      (not_not_intro hstored) (not_not_intro hadmitted)

end GatewayTask

/-! ## The decision of a call -/

namespace Rpc

variable {rpc : Rpc} {message : rpc.Request}

/-- A call that is turned down for its form: its message does not convert, or the request that it
makes fails a check at a time. -/
def IsInvalid (rpc : Rpc) (message : rpc.Request) (now : Instant) : Prop :=
  ¬rpc.Converts message ∨ ∃ task, rpc.AsksFor message task ∧ ¬task.Valid now

/-- A removal in a mode other than unregistering. -/
def IsUnsupported (rpc : Rpc) (message : rpc.Request) : Prop :=
  ∃ task, rpc.AsksFor message task ∧ task.Unsupported

/-- The store does not hold what the call addresses. -/
def IsMissing (rpc : Rpc) (message : rpc.Request) (store : Store) : Prop :=
  ∃ task, rpc.AsksFor message task ∧ ¬task.envelope.TargetStored store

/-- The store does not admit the credentials that the call asks to check. -/
def IsUnauthentic (rpc : Rpc) (message : rpc.Request) (store : Store) : Prop :=
  ∃ task, rpc.AsksFor message task ∧ ¬task.envelope.Admitted store

theorem exists_asksFor_iff
    {plan : rpc.Plan} (hplan : rpc.plan message = .ok plan) (p : GatewayTask → Prop) :
    (∃ task, rpc.AsksFor message task ∧ p task) ↔ p plan.task := by
  constructor
  · rintro ⟨task, ⟨other, hother, rfl⟩, htask⟩
    cases hplan.symm.trans hother
    exact htask
  · intro htask
    exact ⟨plan.task, ⟨plan, hplan, rfl⟩, htask⟩

theorem isInvalid_iff_of_plan_eq_ok
    {plan : rpc.Plan} (hplan : rpc.plan message = .ok plan) (now : Instant) :
    rpc.IsInvalid message now ↔ ¬plan.task.Valid now := by
  have hconverts : rpc.Converts message := (rpc.exists_plan_eq_ok_iff message).mp ⟨plan, hplan⟩
  rw [IsInvalid, exists_asksFor_iff hplan fun task => ¬task.Valid now]
  exact or_iff_right (not_not_intro hconverts)

theorem failureCode?_answer
    (plan : rpc.Plan) (result : Except GatewayError plan.task.Result) :
    failureCode? (plan.answer result) = GatewayTask.taskFailureCode? result := by
  cases result with
  | ok result => rfl
  | error error => rfl

/-- A call at the service in memory whose caller never withdraws comes back with the status that
its form, its mode, its addressee and its credentials decide, in this order, whatever the store
holds and whatever characters the ids in the message are made of. The supply of uuids never gives
the empty text. -/
theorem run_serve_decided
    {uuids : Nat → String} (huuids : ∀ n, uuids n ≠ "") (clock : Nat → Instant)
    (rpc : Rpc) (message : rpc.Request) (s : Situation) :
    ∃ result,
      ((rpc.serve message).run (Service.during uuids (Course.steadfast clock)) s).outcome =
          some result ∧
        Decided (rpc.IsInvalid message (clock (s.moment + 2))) (rpc.IsUnsupported message)
          (rpc.IsMissing message s.service.store) (rpc.IsUnauthentic message s.service.store)
          (failureCode? result) := by
  obtain ⟨houtcome, -⟩ := (rpc.serve message).run_during uuids (Course.steadfast clock) s
  refine ⟨_, houtcome, ?_⟩
  cases hplan : rpc.plan message with
  | error error =>
    have hconverts : ¬rpc.Converts message := by
      intro hconverts
      obtain ⟨plan, hok⟩ := (rpc.exists_plan_eq_ok_iff message).mpr hconverts
      rw [hplan] at hok
      cases hok
    rw [eval_serve_of_plan_eq_error uuids _ hplan]
    exact .of_invalid (.inl hconverts)
  | ok plan =>
    have hsettles := settles_of_plan_eq_ok huuids (Course.steadfast clock) plan s
    rw [eval_serve_of_plan_eq_ok uuids _ hplan, failureCode?_answer,
      isInvalid_iff_of_plan_eq_ok hplan]
    unfold IsUnsupported IsMissing IsUnauthentic
    rw [exists_asksFor_iff hplan, exists_asksFor_iff hplan, exists_asksFor_iff hplan]
    exact hsettles.decided

/-- A cluster that is not there is not found, also when its id reads like another failure. -/
theorem run_serve_decided_unauthorized_cluster :
    (∀ n : Nat, (fun _ => "ib-1" : Nat → String) n ≠ "") ∧
      ∃ result,
        ((terminateSession.serve ⟨"unauthorized", "s-1"⟩).run
            (Service.during (fun _ => "ib-1") (Course.steadfast fun _ => ⟨0, 0⟩))
            ⟨⟨.empty, 0⟩, 0⟩).outcome = some result ∧
          failureCode? result = some .notFound := by
  have huuids : ∀ n : Nat, (fun _ => "ib-1" : Nat → String) n ≠ "" := by simp
  obtain ⟨result, houtcome, hdecided⟩ :=
    run_serve_decided huuids (fun _ => ⟨0, 0⟩) terminateSession ⟨"unauthorized", "s-1"⟩
      ⟨⟨.empty, 0⟩, 0⟩
  refine ⟨huuids, result, houtcome, hdecided.notFound_iff.mpr ⟨?_, ?_, ?_⟩⟩
  · rw [isInvalid_iff_of_plan_eq_ok rfl]
    exact not_not_intro ⟨⟨'u', by decide, by decide⟩, 's', by decide, by decide⟩
  · rintro ⟨task, ⟨plan, hplan, rfl⟩, hunsupported⟩
    cases hplan
    exact hunsupported
  · refine ⟨_, ⟨_, rfl, rfl⟩, ?_⟩
    rintro ⟨cluster, hcluster, -⟩
    cases hcluster

end Rpc

end InfobaseGateway
