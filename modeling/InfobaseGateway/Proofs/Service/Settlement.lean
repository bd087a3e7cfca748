import InfobaseGateway.Proofs.Service.Creation

/-!
# How tasks settle

One statement for all tasks: at the service in memory a task is refused without a contact, or its
envelope is exchanged, or a creation finds its infobase. Everything that is said elsewhere about the
status or about the effect of a call at the service follows from it.
-/

namespace InfobaseGateway

namespace GatewayTask

/-- How a task settles at the service, from the time that it reads first and the service before it.
The last component is the situation after the task. -/
inductive Settles (uuids : Nat → String) (course : Course) (task : GatewayTask) (now : Instant)
    (before : Service) : Except GatewayError task.Result × Situation → Prop
  | invalid (hinvalid : ¬task.Valid now) (error : ValidationError)
      {after : Situation} (hsame : after.service = before) :
      Settles uuids course task now before (.error (.validation error), after)
  | unsupported (hvalid : task.Valid now) (hunsupported : task.Unsupported) (mode : DropMode)
      {after : Situation} (hsame : after.service = before) :
      Settles uuids course task now before (.error (.unsupportedDropMode mode), after)
  | exchanged (hvalid : task.Valid now) (hsupported : ¬task.Unsupported)
      {ended : Except GatewayError task.Result × Situation}
      (hexchanged : Exchanged uuids course task.envelope before ended) :
      Settles uuids course task now before ended
  | found (hvalid : task.Valid now) (hcreation : task.envelope.IsCreation)
      (hstored : task.envelope.TargetStored before.store) (result : task.Result)
      {after : Situation} (hsame : after.service = before) :
      Settles uuids course task now before (.ok result, after)

section

variable {uuids : Nat → String} {course : Course} {s : Situation} {task : GatewayTask}

/-- A task settles if its procedure does, once its request has passed the checks. -/
theorem settles_of_program
    (hprogram : ∀ t : Situation, t.service = s.service →
      task.Valid (course.clock s.moment) → ¬task.Unsupported →
        task.Settles uuids course (course.clock s.moment) s.service
          (task.procedure.program.eval uuids course t)) :
    task.Settles uuids course (course.clock s.moment) s.service
      (task.perform.evalAt uuids course s) := by
  obtain ⟨moments, heval⟩ := task.prepares.eval_followedBy task.procedure.program uuids course s
  rw [Attempt.evalAt, outcome_perform, heval]
  have hadmits := task.admits_admission (course.clock s.moment)
  generalize task.admission (course.clock s.moment) = verdict at hadmits ⊢
  cases hadmits with
  | admitted hvalid hsupported => exact hprogram (s.later moments) rfl hvalid hsupported
  | invalid hinvalid error => exact .invalid hinvalid error rfl
  | unsupported hvalid hunsupported mode => exact .unsupported hvalid hunsupported mode rfl

/-- A task that is no creation settles, whatever uuids the service hands out. -/
theorem settles_of_not_isCreation (hother : ¬task.envelope.IsCreation) :
    task.Settles uuids course (course.clock s.moment) s.service
      (task.perform.evalAt uuids course s) := by
  have hnoCreation : ¬task.IsCreation := mt task.isCreation_envelope_iff.mpr hother
  refine settles_of_program fun t hsame hvalid hsupported => .exchanged hvalid hsupported ?_
  rw [← envelope_procedure] at hother ⊢
  rw [← hsame]
  exact Procedure.exchanged_program task.concludes hnoCreation (search?_eq_none hnoCreation) hother
    t

theorem settles_create (huuids : ∀ n, uuids n ≠ "") (request : CreateInfobase) :
    Settles uuids course (.create request) (course.clock s.moment) s.service
      (request.perform.evalAt uuids course s) := by
  refine settles_of_program fun t hsame hvalid hsupported => ?_
  rw [← hsame]
  rcases request.found_or_exchanged_program huuids course t hvalid.name.nonempty with
    ⟨hstored, result, after, heval, hunchanged⟩ | hexchanged
  · have hprogram : (create request).procedure.program.eval uuids course t = (.ok result, after) :=
      heval
    rw [hprogram]
    exact .found hvalid trivial hstored result hunchanged
  · exact .exchanged hvalid hsupported hexchanged

/-- Every task settles. The first reading of its clock is the one that a lock window is checked
against. -/
theorem settles (huuids : ∀ n, uuids n ≠ "") (task : GatewayTask) :
    task.Settles uuids course (course.clock s.moment) s.service
      (task.perform.evalAt uuids course s) := by
  by_cases hcreation : task.IsCreation
  · obtain ⟨request, rfl⟩ := hcreation
    exact settles_create huuids request
  · exact settles_of_not_isCreation (mt task.isCreation_envelope_iff.mp hcreation)

end

/-! ## What a settlement says about the service -/

namespace Settles

variable {uuids : Nat → String} {course : Course} {task : GatewayTask} {now : Instant}
  {before : Service} {after : Situation}

/-- A task that fails leaves the service as it was. -/
theorem service_eq_of_error
    {error : GatewayError} (h : task.Settles uuids course now before (.error error, after)) :
    after.service = before := by
  cases h with
  | invalid hinvalid error hsame => exact hsame
  | unsupported hvalid hunsupported mode hsame => exact hsame
  | exchanged hvalid hsupported hexchanged =>
    cases hexchanged with
    | withdrawn hcode hwithdrawn hsame => exact hsame
    | rejected hhandle hname hsame => exact hsame

/-- A task that succeeds was answered, or it is a creation that found its infobase. -/
theorem answered_or_found_of_ok
    {result : task.Result} (h : task.Settles uuids course now before (.ok result, after)) :
    (∃ response store,
      before.store.handle (uuids before.issued) task.envelope = .ok (response, store) ∧
        after.service = before.afterAnswer task.envelope store) ∨
      task.envelope.IsCreation ∧ after.service = before := by
  cases h with
  | exchanged hvalid hsupported hexchanged =>
    cases hexchanged with
    | @answered response store hhandle result after hafter =>
      exact .inl ⟨response, store, hhandle, hafter⟩
  | found hvalid hcreation hstored result hsame => exact .inr ⟨hcreation, hsame⟩

end Settles

end GatewayTask

end InfobaseGateway
