import InfobaseGateway.Proofs.Chain.Standard
import InfobaseGateway.Proofs.Operation.Contract
import InfobaseGateway.Proofs.Operation.Conversation
import InfobaseGateway.Proofs.Rpc.Plan

/-!
# What calls come to

A call logs and reads the clock before and after its task, and hands the result of the task on. So
it sends what its task sends, and it comes to what its task comes to.
-/

namespace InfobaseGateway

namespace Chain

variable {α : Type} {call : Call} {handler : Operation (Except Status α)}

/-- The way back of a call through the stages. -/
def wayBack (call : Call) (start : Instant) (result : Except Status α) :
    Operation (Except Status α) :=
  .clock fun stop =>
    .note (.event (auditEvent call (passage result) (millisBetween start stop)))
      (.note (.left 1) (.clock fun _ => .note (.left 0) (.done result)))

theorem ends_wayBack (call : Call) (start : Instant) (result : Except Status α) :
    (wayBack call start result).Ends fun told => told = result :=
  .clock fun _ => .note _ (.note _ (.clock fun _ => .note _ (.done rfl)))

/-- The stages before a handler log and read the clock, and then the handler runs. -/
theorem serve_eq_wayBack (call : Call) (handler : Operation (Except Status α)) :
    serve standardStages call handler =
      .note (.entered 0) (.clock fun _ => .note (.event (receivedEvent call))
        (.note (.entered 1) (.clock fun start => .note .handled
          (handler.bind (wayBack call start))))) :=
  serve_standardStages call handler

theorem ends_serve {P : Except Status α → Prop} (h : handler.Ends P) :
    (serve standardStages call handler).Ends P := by
  rw [serve_eq_wayBack]
  refine .note _ (.clock fun _ => .note _ (.note _ (.clock fun start => .note _ ?_)))
  refine h.bind fun result hresult => (ends_wayBack call start result).mono ?_
  rintro told rfl
  exact hresult

theorem sendsOnly_serve {good : EndpointRequest → Prop} (h : handler.SendsOnly good) :
    (serve standardStages call handler).SendsOnly good := by
  rw [serve_eq_wayBack]
  refine .note _ (.clock fun _ => .note _ (.note _ (.clock fun start => .note _ ?_)))
  refine h.bind fun result => ?_
  exact .clock fun _ => .note _ (.note _ (.clock fun _ => .note _ (.done result)))

end Chain

namespace Rpc

/-! ## What a call can send -/

/-- A call sends only the envelopes of its task. -/
theorem sendsOnly_serve_of_plan_eq_ok
    {rpc : Rpc} {message : rpc.Request} {plan : rpc.Plan}
    (hplan : rpc.plan message = .ok plan) :
    (rpc.serve message).SendsOnly fun request => request ∈ plan.task.envelopes := by
  rw [serve, outcome_handle, hplan]
  apply Chain.sendsOnly_serve
  refine Operation.SendsOnly.bind ?_ fun result => .done _
  have hfollows : plan.task.perform.outcome.Follows True plan.task.script :=
    plan.task.follows_perform
  have hscript := hfollows.sendsOnly
  rw [plan.task.contactsOf_script] at hscript
  refine hscript.mono fun request hmem => ?_
  rcases List.mem_cons.mp hmem with h | h
  · cases h
  · obtain ⟨sent, hsent, hsame⟩ := List.mem_map.mp h
    cases hsame
    exact hsent

/-- A call whose message does not convert only ends. -/
theorem ends_serve_of_plan_eq_error
    {rpc : Rpc} {message : rpc.Request} {error : ConversionError}
    (hplan : rpc.plan message = .error error) :
    (rpc.serve message).Ends fun told => told = .error error.status := by
  rw [serve, outcome_handle, hplan]
  exact Chain.ends_serve (.done rfl)

/-- A call sends only what some task has for an envelope. -/
theorem sendsOnly_serve
    {good : EndpointRequest → Prop} {rpc : Rpc} {message : rpc.Request}
    (hgood : ∀ plan, rpc.plan message = .ok plan → ∀ request ∈ plan.task.envelopes, good request) :
    (rpc.serve message).SendsOnly good := by
  cases hplan : rpc.plan message with
  | ok plan => exact (sendsOnly_serve_of_plan_eq_ok hplan).mono (hgood plan hplan)
  | error error => exact (ends_serve_of_plan_eq_error hplan).sendsOnly

end Rpc

/-! ## Creations and removals -/

namespace CreateInfobase

/-- What a call answers with the result of its creation. -/
def answer (result : Except GatewayError LifecycleOutcome) :
    Except Status CreateInfobaseResponse :=
  (result.mapError GatewayError.status).map fun outcome =>
    ⟨outcome.infobaseId, outcome.name.getD "", outcome.message, outcome.success⟩

theorem ids_of_ofMessage
    {message : CreateInfobaseRequest} {request : CreateInfobase}
    (hconverts : ofMessage message = .ok request) :
    request.clusterId = message.clusterId ∧ request.name = message.name := by
  simp only [ofMessage, except_bind_eq_ok_iff] at hconverts
  obtain ⟨dbms, -, securityLevel, -, hrequest⟩ := hconverts
  cases hrequest
  exact ⟨rfl, rfl⟩

theorem serve_eq
    {message : CreateInfobaseRequest} {request : CreateInfobase}
    (hconverts : ofMessage message = .ok request) :
    Rpc.createInfobase.serve message =
      Chain.serve standardStages (Rpc.createInfobase.call message)
        (request.perform.outcome.bind fun result => .done (answer result)) := by
  rw [Rpc.serve, Rpc.outcome_handle, Rpc.plan, hconverts]
  rfl

/-- The call of a valid creation comes to its lookup. -/
theorem looking_serve
    {message : CreateInfobaseRequest} {request : CreateInfobase}
    (hconverts : ofMessage message = .ok request) (hvalid : request.Valid) :
    request.procedure.Looking answer request.search (Rpc.createInfobase.serve message) := by
  rw [serve_eq hconverts, Chain.serve_eq_wayBack]
  refine .note _ (.clock fun _ => .note _ (.note _ (.clock fun start => .note _ ?_)))
  rw [Operation.bind_bind]
  exact (looking_perform hvalid).bind fun result => Chain.ends_wayBack _ start (answer result)

/-- A call whose creation is refused ends with a failure. -/
theorem ends_serve_of_invalid
    {message : CreateInfobaseRequest} {request : CreateInfobase}
    (hconverts : ofMessage message = .ok request) (hinvalid : ¬request.Valid) :
    (Rpc.createInfobase.serve message).Ends (IsFailure answer) := by
  rw [serve_eq hconverts]
  apply Chain.ends_serve
  rw [perform, outcome_ensure_bind]
  cases hvalidate : request.validate with
  | ok dbms => exact absurd (request.exists_validate_eq_ok_iff.mp ⟨dbms, hvalidate⟩) hinvalid
  | error error => exact .done ⟨_, rfl⟩

/-- A call fails without asking for anything, or it comes to the lookup of a valid creation. -/
theorem fails_or_looking_serve (message : CreateInfobaseRequest) :
    (Rpc.createInfobase.serve message).Ends (fun told => ∃ status, told = .error status) ∨
      ∃ request, ofMessage message = .ok request ∧ request.Valid ∧
        request.procedure.Looking answer request.search (Rpc.createInfobase.serve message) := by
  cases hconverts : ofMessage message with
  | error error =>
    have hplan : Rpc.createInfobase.plan message = .error error := by
      rw [Rpc.plan, hconverts]
      rfl
    exact .inl ((Rpc.ends_serve_of_plan_eq_error hplan).mono fun _ htold => ⟨_, htold⟩)
  | ok request =>
    by_cases hvalid : request.Valid
    · exact .inr ⟨request, rfl, hvalid, looking_serve hconverts hvalid⟩
    · refine .inl ((ends_serve_of_invalid hconverts hvalid).mono ?_)
      rintro told ⟨error, rfl⟩
      exact ⟨error.status, rfl⟩

end CreateInfobase

namespace DropInfobase

/-- What a call answers with the result of its removal. -/
def answer (result : Except GatewayError LifecycleOutcome) :
    Except Status DropInfobaseResponse :=
  (result.mapError GatewayError.status).map fun outcome =>
    ⟨outcome.infobaseId, outcome.message, outcome.success⟩

theorem ids_of_ofMessage
    {message : DropInfobaseRequest} {request : DropInfobase}
    (hconverts : ofMessage message = .ok request) :
    request.clusterId = message.clusterId ∧ request.infobaseId = message.infobaseId := by
  simp only [ofMessage, except_bind_eq_ok_iff] at hconverts
  obtain ⟨dropMode, -, hrequest⟩ := hconverts
  cases hrequest
  exact ⟨rfl, rfl⟩

theorem serve_eq
    {message : DropInfobaseRequest} {request : DropInfobase}
    (hconverts : ofMessage message = .ok request) :
    Rpc.dropInfobase.serve message =
      Chain.serve standardStages (Rpc.dropInfobase.call message)
        (request.perform.outcome.bind fun result => .done (answer result)) := by
  rw [Rpc.serve, Rpc.outcome_handle, Rpc.plan, hconverts]
  rfl

/-- The call of a valid removal in the mode that is supported comes to its request. -/
theorem pending_serve
    {message : DropInfobaseRequest} {request : DropInfobase}
    (hconverts : ofMessage message = .ok request)
    (hvalidate : request.validate = .ok .unregisterOnly) :
    request.procedure.Pending answer (Rpc.dropInfobase.serve message) := by
  rw [serve_eq hconverts, Chain.serve_eq_wayBack]
  refine .note _ (.clock fun _ => .note _ (.note _ (.clock fun start => .note _ ?_)))
  rw [Operation.bind_bind]
  exact (pending_perform hvalidate).bind fun result => Chain.ends_wayBack _ start (answer result)

/-- A call whose removal is refused ends with a failure. -/
theorem ends_serve_of_refused
    {message : DropInfobaseRequest} {request : DropInfobase}
    (hconverts : ofMessage message = .ok request)
    (hrefused : request.validate ≠ .ok .unregisterOnly) :
    (Rpc.dropInfobase.serve message).Ends (IsFailure answer) := by
  rw [serve_eq hconverts]
  apply Chain.ends_serve
  rw [perform, outcome_ensure_bind]
  cases hvalidate : request.validate with
  | error error => exact .done ⟨_, rfl⟩
  | ok mode =>
    have hother : mode ≠ .unregisterOnly := by
      rintro rfl
      exact hrefused hvalidate
    simp only [if_pos hother]
    exact .note _ (.done ⟨_, rfl⟩)

/-- A call fails without asking for anything, or it comes to the request of a removal. -/
theorem fails_or_pending_serve (message : DropInfobaseRequest) :
    (Rpc.dropInfobase.serve message).Ends (fun told => ∃ status, told = .error status) ∨
      ∃ request, ofMessage message = .ok request ∧
        request.procedure.Pending answer (Rpc.dropInfobase.serve message) := by
  cases hconverts : ofMessage message with
  | error error =>
    have hplan : Rpc.dropInfobase.plan message = .error error := by
      rw [Rpc.plan, hconverts]
      rfl
    exact .inl ((Rpc.ends_serve_of_plan_eq_error hplan).mono fun _ htold => ⟨_, htold⟩)
  | ok request =>
    by_cases hvalidate : request.validate = .ok .unregisterOnly
    · exact .inr ⟨request, rfl, pending_serve hconverts hvalidate⟩
    · refine .inl ((ends_serve_of_refused hconverts hvalidate).mono ?_)
      rintro told ⟨error, rfl⟩
      exact ⟨error.status, rfl⟩

end DropInfobase

end InfobaseGateway
