import InfobaseGateway.Chain.Standard
import InfobaseGateway.Proofs.Operation.Laws

/-!
# Calls in the standard stages

The standard stages log a call on its way in and on its way out, read the clock, and hand the result
of the handler on unchanged.
-/

namespace InfobaseGateway

namespace Chain

variable {α : Type}

theorem answer_passage (call : Call) (result : Except Status α) :
    answer call (passage result) (some result) = result := by
  cases result with
  | ok value => rfl
  | error status => rfl

/-- A call in the standard stages, step by step. -/
theorem serve_standardStages (call : Call) (handler : Operation (Except Status α)) :
    serve standardStages call handler =
      .note (.entered 0) (.clock fun _ => .note (.event (receivedEvent call))
        (.note (.entered 1) (.clock fun start => .note .handled
          (handler.bind fun result => .clock fun stop =>
            .note (.event (auditEvent call (passage result) (millisBetween start stop)))
              (.note (.left 1) (.clock fun _ => .note (.left 0) (.done result))))))) := by
  simp only [serve, run, standardStages, sanitizeStage, auditStage, Operation.bind_eq_bind,
    Operation.mark, Operation.now, Operation.log, Operation.bind, Operation.pure_eq_done,
    Operation.bind_bind, answer_passage]

end Chain

end InfobaseGateway
