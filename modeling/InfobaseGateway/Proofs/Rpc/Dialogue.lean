import InfobaseGateway.Proofs.Chain.Nesting
import InfobaseGateway.Proofs.Operation.Script
import InfobaseGateway.Proofs.Rpc.Record

/-!
# The dialogue of a call

The stages around a handler make no contact with provider or endpoint, and they hand its result on.
So the dialogue of a call is the one of its task, and its outcome is the answer to the task's.
-/

namespace InfobaseGateway

namespace Chain

variable {σ α : Type}

theorem dialogueOf_run_serve
    (call : Call) (handler : Operation (Except Status α)) (S : Surroundings σ) (s : σ) :
    dialogueOf ((serve standardStages call handler).run S s).steps =
      dialogueOf (handler.run S (S.clock (S.clock s).2).2).steps := by
  have hback (start : Instant) (result : Except Status α) (state : σ) :
      dialogueOf ((wayBack call start result).run S state).steps = [] := rfl
  rw [serve_eq_wayBack]
  simp only [Operation.run, Operation.run_bind, Run.after_steps, List.singleton_append,
    dialogueOf_note, dialogueOf_clock, Run.andThen]
  cases (handler.run S (S.clock (S.clock s).2).2).outcome with
  | none => rfl
  | some result => simp only [Run.after_steps, dialogueOf_append, hback, List.append_nil]

end Chain

namespace Rpc

variable {σ : Type} {rpc : Rpc} {message : rpc.Request}

/-- A call whose message converts talks as its task does, and answers the result of the task. -/
theorem run_serve_of_plan_eq_ok
    {plan : rpc.Plan} (hplan : rpc.plan message = .ok plan) (S : Surroundings σ) (s : σ) :
    let task := plan.task.perform.outcome.run S (S.clock (S.clock s).2).2
    dialogueOf ((rpc.serve message).run S s).steps = dialogueOf task.steps ∧
      ((rpc.serve message).run S s).outcome = task.outcome.map plan.answer := by
  intro task
  have hhandle : (rpc.handle message).outcome =
      plan.task.perform.outcome.bind fun result => .done (plan.answer result) := by
    rw [outcome_handle, hplan, perform?]
  rw [serve, Chain.dialogueOf_run_serve, Chain.outcome_run_serve, hhandle,
    Operation.run_bind_done]
  exact ⟨rfl, rfl⟩

/-- A call whose message does not convert makes no contact. -/
theorem run_serve_of_plan_eq_error
    {error : ConversionError} (hplan : rpc.plan message = .error error) (S : Surroundings σ)
    (s : σ) :
    dialogueOf ((rpc.serve message).run S s).steps = [] ∧
      ((rpc.serve message).run S s).outcome = some (.error error.status) := by
  have hhandle : (rpc.handle message).outcome = .done (.error error.status) := by
    rw [outcome_handle, hplan, perform?]
  rw [serve, Chain.dialogueOf_run_serve, Chain.outcome_run_serve, hhandle]
  exact ⟨rfl, rfl⟩

end Rpc

end InfobaseGateway
