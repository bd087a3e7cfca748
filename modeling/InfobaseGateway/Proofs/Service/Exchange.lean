import InfobaseGateway.Proofs.Operation.Contract
import InfobaseGateway.Proofs.Service.Outlook
import InfobaseGateway.Proofs.Store.Answers

/-!
# Procedures at the service in memory

How an operation ends when the service in memory serves it. Its envelope is exchanged: the caller
withdraws in time, or the service rejects the envelope, or it answers. Whatever happens after the
answer of the service, no operation fails any more, so a failure leaves the service as it was.
-/

namespace InfobaseGateway

/-- The service answers at once and with what was asked for. -/
theorem receive_of_answer
    (uuids : Nat → String) {service : Service} {request : EndpointRequest}
    {response : EndpointResponse} {store : Store}
    (hhandle : service.store.handle (uuids service.issued) request = .ok (response, store)) :
    ∃ content, response.content? request.expects = some content ∧
      Dispatch.receive request (.ok response) = .ok content := by
  have hexplains := service.store.explains_handle (uuids service.issued) request
  rw [hhandle] at hexplains
  obtain ⟨⟨content, hcontent⟩, -, -⟩ := hexplains
  exact ⟨content, hcontent, by simp [Dispatch.receive, hcontent]⟩

/-- Only a creation asks for a new infobase. -/
theorem GatewayTask.isCreation_envelope_iff (task : GatewayTask) :
    task.envelope.IsCreation ↔ task.IsCreation := by
  constructor
  · intro hcreation
    cases task with
    | create request => exact ⟨request, rfl⟩
    | _ => exact hcreation.elim
  · rintro ⟨request, rfl⟩
    trivial

/-! ## The exchange of one envelope -/

/-- How an exchange with the service ends, from the service before it. The last component is the
situation after the task that made the exchange. A new infobase is only asked for under a name that
is free, so no envelope is rejected because of a name. -/
inductive Exchanged {α : Type} (uuids : Nat → String) (course : Course)
    (envelope : EndpointRequest) (before : Service) :
    Except GatewayError α × Situation → Prop
  | withdrawn {error : GatewayError} (hcode : error.code = .cancelled)
      {moment : Nat} (hwithdrawn : course.withdrawn moment = true)
      {after : Situation} (hsame : after.service = before) :
      Exchanged uuids course envelope before (.error error, after)
  | rejected {rejection : Rejection}
      (hhandle : before.store.handle (uuids before.issued) envelope = .error rejection)
      (hname : ¬rejection.IsName)
      {after : Situation} (hsame : after.service = before) :
      Exchanged uuids course envelope before
        (.error (.endpoint (.ofText rejection.message)), after)
  | answered {response : EndpointResponse} {store : Store}
      (hhandle : before.store.handle (uuids before.issued) envelope = .ok (response, store))
      (result : α) {after : Situation}
      (hafter : after.service = before.afterAnswer envelope store) :
      Exchanged uuids course envelope before (.ok result, after)

section Exchange

variable {α : Type} {uuids : Nat → String} {course : Course} {envelope : EndpointRequest}
  {s : Situation} {procedure : Procedure α} {next : Operation (Except GatewayError α)}

/-- Only a new infobase can be rejected because of its name. -/
theorem not_isName_of_handle_eq_error
    (hother : ¬envelope.IsCreation)
    {store : Store} {uuid : String} {rejection : Rejection}
    (hhandle : store.handle uuid envelope = .error rejection) : ¬rejection.IsName := by
  intro hname
  have hexplains := store.explains_handle uuid envelope
  rw [hhandle] at hexplains
  rcases hexplains with ⟨hmissing, -⟩ | ⟨-, hcreation⟩ | ⟨⟨scope, rfl⟩, -⟩
  · cases rejection with
    | nameMissing | nameTaken name => exact hmissing
    | _ => exact hname
  · exact hother hcreation
  · exact hname

namespace Procedure

theorem exchanged_of_withdrawn
    (procedure : Procedure α) (look : Look) (next : Operation (Except GatewayError α))
    (hwithdrawn : course.withdrawn s.moment = true) :
    Exchanged uuids course envelope s.service
      ((procedure.looking look next).eval uuids course s) := by
  obtain ⟨after, heval, hsame⟩ :=
    (procedure.setback (.withdrawn look)).eval_program uuids course s
  simp only [looking, Operation.eval, hwithdrawn, heval]
  exact .withdrawn look.code_error hwithdrawn hsame

theorem eval_looking_of_stays
    (procedure : Procedure α) (look : Look) (next : Operation (Except GatewayError α))
    (hstays : course.withdrawn s.moment = false) :
    (procedure.looking look next).eval uuids course s = next.eval uuids course s := by
  simp only [looking, Operation.eval, hstays]

theorem exchanged_looking
    (look : Look)
    (hnext : Exchanged uuids course envelope s.service (next.eval uuids course s)) :
    Exchanged uuids course envelope s.service
      ((procedure.looking look next).eval uuids course s) := by
  cases hwithdrawn : course.withdrawn s.moment with
  | true => exact procedure.exchanged_of_withdrawn look next hwithdrawn
  | false =>
    rw [procedure.eval_looking_of_stays look next hwithdrawn]
    exact hnext

/-- An operation on its way to its envelope exchanges it, if an answer to it is a success. -/
theorem exchanged_asking
    (procedure : Procedure α)
    (hname : ∀ rejection,
      s.service.store.handle (uuids s.service.issued) procedure.envelope = .error rejection →
        ¬rejection.IsName)
    (hanswered : ∀ response store,
      s.service.store.handle (uuids s.service.issued) procedure.envelope = .ok (response, store) →
        ∃ value, procedure.conclusion (.ok response) = .ok value) :
    Exchanged uuids course procedure.envelope s.service
      (procedure.asking.eval uuids course s) := by
  refine exchanged_looking _ ?_
  simp only [Operation.eval]
  rcases Service.answer_cases uuids s.service procedure.envelope with
    ⟨response, store, hhandle, hanswer⟩ | ⟨rejection, hhandle, hanswer⟩
  · obtain ⟨value, hvalue⟩ := hanswered response store hhandle
    obtain ⟨after, heval, hsame⟩ := (procedure.closing (.ok response)).eval_program uuids course
      ⟨s.service.afterAnswer procedure.envelope store, s.moment + 1⟩
    have hresult : (procedure.closing (.ok response)).result = .ok value := hvalue
    rw [hanswer]
    simp only [Except.mapError, heval, hresult]
    exact .answered hhandle value hsame
  · obtain ⟨after, heval, hsame⟩ := (procedure.closing (.error rejection.message)).eval_program
      uuids course ⟨s.service, s.moment + 1⟩
    rw [hanswer]
    simp only [Except.mapError, heval]
    exact .rejected hhandle (hname rejection hhandle) hsame

/-- An operation without a search exchanges its envelope. Nothing can be wrong with a name in it,
and no id is missed in the answer. -/
theorem exchanged_program
    {excused : Prop} (hconcludes : procedure.Concludes excused) (hnever : ¬excused)
    (hsearch : procedure.search? = none) (hother : ¬procedure.envelope.IsCreation)
    (s : Situation) :
    Exchanged uuids course procedure.envelope s.service
      (procedure.program.eval uuids course s) := by
  refine exchanged_looking _ ?_
  simp only [acquiring, searching, hsearch, Operation.eval]
  refine procedure.exchanged_asking (s := s.later 1) ?_ ?_
  · exact fun _ => not_isName_of_handle_eq_error hother
  intro response store hhandle
  obtain ⟨content, hcontent, -⟩ := receive_of_answer uuids hhandle
  exact hconcludes.exists_conclusion_eq_ok hnever ⟨content, hcontent⟩

end Procedure

end Exchange

end InfobaseGateway
