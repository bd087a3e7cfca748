import InfobaseGateway.Proofs.Operation.Task
import InfobaseGateway.Proofs.Service.Course
import InfobaseGateway.Rpc.Handler

/-!
# From calls to tasks

Every method does the same: it converts its message, performs a task and words the answer. The plan
of a call says which task that is and how the answer follows from its result. Handling a call is
performing its plan, and the stages around a handler hand its result on.
-/

namespace InfobaseGateway

namespace Rpc

/-- What a method does with a message that converts. -/
structure Plan (rpc : Rpc) where
  task : GatewayTask
  respond : task.Result → rpc.Response

def plan : (rpc : Rpc) → rpc.Request → Except ConversionError rpc.Plan
  | createInfobase, message =>
    (CreateInfobase.ofMessage message).map fun request =>
      ⟨.create request, fun outcome =>
        ⟨outcome.infobaseId, outcome.name.getD "", outcome.message, outcome.success⟩⟩
  | updateInfobase, message =>
    (UpdateInfobase.ofMessage message).map fun request =>
      ⟨.update request, fun outcome => ⟨outcome.infobaseId, outcome.message, outcome.success⟩⟩
  | dropInfobase, message =>
    (DropInfobase.ofMessage message).map fun request =>
      ⟨.drop request, fun outcome => ⟨outcome.infobaseId, outcome.message, outcome.success⟩⟩
  | lockInfobase, message =>
    (LockInfobase.ofMessage message).map fun request =>
      ⟨.lock request, fun outcome => ⟨outcome.infobaseId, outcome.message, outcome.success⟩⟩
  | unlockInfobase, message =>
    .ok ⟨.unlock (.ofMessage message), fun outcome =>
      ⟨outcome.infobaseId, outcome.message, outcome.success⟩⟩
  | terminateSession, message => .ok ⟨.terminate (.ofMessage message), fun _ => ⟨⟩⟩
  | authenticateAgent, message => .ok ⟨.authenticate (.ofAgentMessage message), fun _ => ⟨⟩⟩
  | authenticateCluster, message =>
    .ok ⟨.authenticate (.ofClusterMessage message), fun _ => ⟨⟩⟩
  | authenticateInfobase, message =>
    .ok ⟨.authenticate (.ofInfobaseMessage message), fun _ => ⟨⟩⟩
  | getClusters, _ => .ok ⟨.clusters, fun clusters => ⟨clusters⟩⟩
  | getClusterInfo, message => .ok ⟨.cluster message.clusterId, fun cluster => ⟨some cluster⟩⟩
  | getSessions, message => .ok ⟨.sessions message.clusterId, fun sessions => ⟨sessions⟩⟩
  | getShortInfobases, message =>
    .ok ⟨.infobases message.clusterId, fun infobases => ⟨infobases⟩⟩
  | getInfobaseSessions, message =>
    .ok ⟨.infobaseSessions message.clusterId message.infobaseId, fun sessions => ⟨sessions⟩⟩

/-- The answer of a call to the result of its task. -/
def Plan.answer {rpc : Rpc} (plan : rpc.Plan)
    (result : Except GatewayError plan.task.Result) : Except Status rpc.Response :=
  (result.mapError GatewayError.status).map plan.respond

theorem exists_ok_of_answer_eq_ok
    {rpc : Rpc} {plan : rpc.Plan} {result : Except GatewayError plan.task.Result}
    {response : rpc.Response} (hanswer : plan.answer result = .ok response) :
    ∃ value, result = .ok value := by
  cases result with
  | error error => cases hanswer
  | ok value => exact ⟨value, rfl⟩

/-- A call that failed did so with the failure of its task. -/
theorem exists_error_of_answer_eq_error
    {rpc : Rpc} {plan : rpc.Plan} {result : Except GatewayError plan.task.Result} {status : Status}
    (hanswer : plan.answer result = .error status) :
    ∃ error, result = .error error ∧ error.status = status := by
  cases result with
  | error error => exact ⟨error, rfl, Except.error.inj hanswer⟩
  | ok value => cases hanswer

/-- Performs the plan of a call. -/
def perform? {rpc : Rpc} : Except ConversionError rpc.Plan → Operation (Except Status rpc.Response)
  | .ok plan => plan.task.perform.outcome.bind fun result => .done (plan.answer result)
  | .error error => .done (.error error.status)

/-- A plan that a conversion leads to is the plan of the request that it gives. -/
theorem exists_of_map_eq_ok {rpc : Rpc} {α : Type}
    {converted : Except ConversionError α} {f : α → rpc.Plan} {plan : rpc.Plan}
    (h : converted.map f = .ok plan) : ∃ request, converted = .ok request ∧ f request = plan := by
  cases converted with
  | error error => cases h
  | ok request => exact ⟨request, rfl, Except.ok.inj h⟩

/-- Performs the plan that a conversion leads to. -/
theorem perform?_map {rpc : Rpc} {α : Type}
    (converted : Except ConversionError α) (plan : α → rpc.Plan) :
    perform? (converted.map plan) =
      match converted with
      | .ok request =>
        (plan request).task.perform.outcome.bind fun result =>
          .done ((plan request).answer result)
      | .error error => .done (.error error.status) := by
  cases converted with
  | error error => rfl
  | ok request => rfl

/-- A method whose task gives the answer after a conversion. -/
theorem outcome_convert_perform {α β γ : Type}
    (converted : Except ConversionError α) (operation : α → GatewayAttempt β) (answer : β → γ) :
    (do
        let request ← convert converted
        let result ← perform (operation request)
        return answer result : CallAttempt γ).outcome =
      match converted with
      | .ok request =>
        (operation request).outcome.bind fun result =>
          .done ((result.mapError GatewayError.status).map answer)
      | .error error => .done (.error error.status) := by
  cases converted with
  | error error => rfl
  | ok request =>
    show (Operation.bind _ _).bind _ = _
    rw [Operation.bind_bind]
    congr 1
    funext result
    cases result with
    | ok result => rfl
    | error error => rfl

theorem outcome_perform {β γ : Type} (operation : GatewayAttempt β) (answer : β → γ) :
    (do
        let result ← perform operation
        return answer result : CallAttempt γ).outcome =
      operation.outcome.bind fun result =>
        .done ((result.mapError GatewayError.status).map answer) := by
  exact outcome_convert_perform (.ok ()) (fun _ => operation) answer

/-- Handling a call is performing its plan. -/
theorem outcome_handle (rpc : Rpc) (message : rpc.Request) :
    (rpc.handle message).outcome = perform? (rpc.plan message) := by
  cases rpc with
  | createInfobase =>
    rw [handle, outcome_convert_perform, plan, perform?_map]
    rfl
  | updateInfobase =>
    rw [handle, outcome_convert_perform, plan, perform?_map]
    rfl
  | dropInfobase =>
    rw [handle, outcome_convert_perform, plan, perform?_map]
    rfl
  | lockInfobase =>
    rw [handle, outcome_convert_perform, plan, perform?_map]
    rfl
  | unlockInfobase => exact outcome_perform _ _
  | terminateSession => exact outcome_perform _ _
  | authenticateAgent => exact outcome_perform _ _
  | authenticateCluster => exact outcome_perform _ _
  | authenticateInfobase => exact outcome_perform _ _
  | getClusters => exact outcome_perform _ _
  | getClusterInfo => exact outcome_perform _ _
  | getSessions => exact outcome_perform _ _
  | getShortInfobases => exact outcome_perform _ _
  | getInfobaseSessions => exact outcome_perform _ _

end Rpc

end InfobaseGateway
