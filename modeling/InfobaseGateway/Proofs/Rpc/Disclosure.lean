import InfobaseGateway.Proofs.Operation.Disclosure
import InfobaseGateway.Proofs.Rpc.Dialogue

/-!
# What a caller learns of a failure

The status of a call reads "cancelled" only if the call found its caller gone, and "unimplemented"
only for a removal that asks for the database, whatever the texts of provider and endpoint say. A
text that has a category is replaced by the message of the category, so nothing else of it reaches
the caller. A text without one is quoted.
-/

namespace InfobaseGateway

theorem ErrorCode.status_injective : Function.Injective status := by
  intro code code' h
  cases code <;> cases code' <;> first | rfl | cases h

namespace Rpc

variable {σ : Type}

/-- A removal that asks for the database to be dropped or cleared. -/
def AsksForDatabase : (rpc : Rpc) → rpc.Request → Prop
  | dropInfobase, message => message.dropMode = 2 ∨ message.dropMode = 3
  | _, _ => False

end Rpc

theorem DropMode.eq_two_or_three_of_ofNumber
    {field : String} {number : Int32} {mode : DropMode}
    (hnumber : ofNumber field number = .ok (some mode)) (hmode : mode ≠ .unregisterOnly) :
    number = 2 ∨ number = 3 := by
  unfold ofNumber at hnumber
  split_ifs at hnumber with hnone hone htwo hthree
  · cases hnumber
  · cases hnumber
    exact absurd rfl hmode
  · exact .inl htwo
  · exact .inr hthree

theorem DropInfobase.ofNumber_of_ofMessage
    {message : DropInfobaseRequest} {request : DropInfobase}
    (hconverts : ofMessage message = .ok request) :
    DropMode.ofNumber "drop_mode" message.dropMode = .ok request.dropMode := by
  simp only [ofMessage, except_bind_eq_ok_iff] at hconverts
  obtain ⟨mode, hmode, hrequest⟩ := hconverts
  cases hrequest
  exact hmode

namespace Rpc

theorem asksForDatabase_of_touchesDatabase
    {rpc : Rpc} {message : rpc.Request} {plan : rpc.Plan} (hplan : rpc.plan message = .ok plan)
    (htouches : plan.task.TouchesDatabase) : rpc.AsksForDatabase message := by
  cases rpc with
  | dropInfobase =>
    obtain ⟨request, hconverts, rfl⟩ := exists_of_map_eq_ok hplan
    obtain ⟨mode, hmode, hother⟩ := htouches
    have hnumber := DropInfobase.ofNumber_of_ofMessage hconverts
    rw [hmode] at hnumber
    exact DropMode.eq_two_or_three_of_ofNumber hnumber hother
  | createInfobase | updateInfobase | lockInfobase =>
    obtain ⟨request, -, rfl⟩ := exists_of_map_eq_ok hplan
    exact htouches.elim
  | _ =>
    cases hplan
    exact htouches.elim

/-- What the status of a call says about the way in which it went. -/
structure Discloses (rpc : Rpc) (message : rpc.Request)
    (run : Run σ (Except Status rpc.Response)) : Prop where
  cancelled : ∀ status, run.outcome = some (.error status) → status.code = .cancelled →
    .checkpoint true ∈ run.steps
  unimplemented : ∀ status, run.outcome = some (.error status) → status.code = .unimplemented →
    rpc.AsksForDatabase message
  /-- A text without a category is quoted. -/
  quoted : ∀ step ∈ run.steps, ∀ text, step.failureText? = some text →
    categoryOf text = .internal →
    run.outcome = some (.error ⟨.internal, "RAS error: " ++ text⟩)

theorem mem_dialogueOf_of_failureText? {step : Step} {steps : List Step} {text : String}
    (hstep : step ∈ steps) (htext : step.failureText? = some text) : step ∈ dialogueOf steps := by
  refine List.mem_filter.mpr ⟨hstep, ?_⟩
  cases step with
  | acquire | send | checkpoint => rfl
  | note | clock => cases htext

theorem discloses (rpc : Rpc) (message : rpc.Request) (S : Surroundings σ) (s : σ) :
    rpc.Discloses message ((rpc.serve message).run S s) := by
  cases hplan : rpc.plan message with
  | error error =>
    obtain ⟨hdialogue, houtcome⟩ := run_serve_of_plan_eq_error hplan S s
    constructor
    · intro status hstatus hcode
      rw [houtcome] at hstatus
      cases hstatus
      cases hcode
    · intro status hstatus hcode
      rw [houtcome] at hstatus
      cases hstatus
      cases hcode
    · intro step hstep text htext
      have hcontact := mem_dialogueOf_of_failureText? hstep htext
      rw [hdialogue] at hcontact
      cases hcontact
  | ok plan =>
    obtain ⟨hdialogue, houtcome⟩ := run_serve_of_plan_eq_ok hplan S s
    have hexplains := plan.task.tells_perform.explains S (S.clock (S.clock s).2).2
    rw [← hdialogue] at hexplains
    have hfailed (status : Status)
        (hstatus : ((rpc.serve message).run S s).outcome = some (.error status)) :
        ∃ error : GatewayError, error.status = status ∧
          (plan.task.perform.outcome.run S (S.clock (S.clock s).2).2).outcome =
            some (.error error) := by
      rw [houtcome] at hstatus
      obtain ⟨result, hresult, hanswer⟩ := Option.map_eq_some_iff.mp hstatus
      obtain ⟨error, rfl, hstatus⟩ := exists_error_of_answer_eq_error hanswer
      exact ⟨error, hstatus, hresult⟩
    constructor
    · intro status hstatus hcode
      obtain ⟨error, rfl, hresult⟩ := hfailed status hstatus
      have hseen := hexplains.cancelled error hresult (ErrorCode.status_injective hcode)
      exact List.mem_of_mem_filter hseen
    · intro status hstatus hcode
      obtain ⟨error, rfl, hresult⟩ := hfailed status hstatus
      have htouches :=
        hexplains.unimplemented error hresult (ErrorCode.status_injective hcode)
      exact asksForDatabase_of_touchesDatabase hplan htouches
    · intro step hstep text htext hunknown
      have hcontact := mem_dialogueOf_of_failureText? hstep htext
      have hfound : categoryOf text ≠ .notFound := by simp [hunknown]
      rw [houtcome, hexplains.failed step hcontact text htext hfound,
        ← status_ofText_of_unknown hunknown]
      rfl

/-- A call ends with the same status or response and sends the same envelopes, in whatever words
provider and endpoint fail. -/
theorem serve_reworded
    (rpc : Rpc) (message : rpc.Request) {S S' : Surroundings σ} (hreworded : S.Reworded S')
    (s : σ) :
    ((rpc.serve message).run S' s).outcome = ((rpc.serve message).run S s).outcome ∧
      ((rpc.serve message).run S' s).sent = ((rpc.serve message).run S s).sent := by
  simp only [Run.sent_eq_sentOf]
  rw [← sentOf_dialogueOf, ← sentOf_dialogueOf ((rpc.serve message).run S s).steps]
  cases hplan : rpc.plan message with
  | error error =>
    obtain ⟨hdialogue, houtcome⟩ := run_serve_of_plan_eq_error hplan S s
    obtain ⟨hdialogue', houtcome'⟩ := run_serve_of_plan_eq_error hplan S' s
    rw [hdialogue, hdialogue', houtcome, houtcome']
    exact ⟨rfl, rfl⟩
  | ok plan =>
    obtain ⟨hdialogue, houtcome⟩ := run_serve_of_plan_eq_ok hplan S s
    obtain ⟨hdialogue', houtcome'⟩ := run_serve_of_plan_eq_ok hplan S' s
    have hresembles := plan.task.tells_perform.resembles hreworded (S.clock (S.clock s).2).2
    have hanswer (outcome : Option (Except GatewayError plan.task.Result)) :
        outcome.map plan.answer =
          (outcome.map (Except.mapError GatewayError.status)).map (Except.map plan.respond) :=
      Option.map_map .. |>.symm
    rw [hdialogue, hdialogue', houtcome, houtcome', hanswer, hanswer, hreworded.clock,
      hreworded.clock]
    exact ⟨congrArg _ hresembles.outcome, hresembles.sent⟩

/-- What a caller learns of a failure of provider or endpoint, whatever they say and whenever the
caller withdraws. Had they said it in other words of the same category, the caller would have got
the same, and so would the endpoint. -/
theorem disclosed (rpc : Rpc) (message : rpc.Request) (S : Surroundings σ) (s : σ) :
    let run := (rpc.serve message).run S s
    rpc.Discloses message run ∧
      ∀ S' : Surroundings σ, S.Reworded S' →
        let run' := (rpc.serve message).run S' s
        run'.outcome = run.outcome ∧ run'.sent = run.sent := by
  intro run
  exact ⟨rpc.discloses message S s, fun _ hreworded => rpc.serve_reworded message hreworded s⟩

end Rpc

/-- Surroundings whose endpoint fails with a text. -/
def Surroundings.failing (text : String) : Surroundings Unit where
  cancelled _ := false
  clock state := (⟨0, 0⟩, state)
  acquire state := ({ reply := some (.ok ()) }, state)
  send _ state := ({ reply := some (.error text) }, state)

theorem Surroundings.reworded_failing {text text' : String} (hsynonyms : Synonyms text text') :
    (failing text).Reworded (failing text') where
  cancelled _ := rfl
  clock _ := rfl
  acquire_reply _ := .some (.replied ())
  acquire_final _ := rfl
  send_reply _ _ := .some (.failed hsynonyms)
  send_final _ _ := rfl

namespace Rpc

/-- A creation whose lookup finds nothing goes on, and fails with its second request, in whatever
words it is told that there is nothing. -/
theorem disclosed_missing_cluster :
    let S := Surroundings.failing "cluster c-1 was not found"
    let S' := Surroundings.failing "cluster c-1 does not exist"
    let creation : CreateInfobaseRequest :=
      ⟨"c-1", "accounting", 2, "db-1", "accounting", none, none, none, none, none, none, none,
        none, none, none⟩
    let run := (createInfobase.serve creation).run S ()
    let run' := (createInfobase.serve creation).run S' ()
    S.Reworded S' ∧ run'.outcome = run.outcome ∧ run'.sent = run.sent ∧
      run.sent.map EndpointRequest.name = ["GetInfobasesShort", "CreateInfobase"] := by
  intro S S' creation run run'
  have hsynonyms : Synonyms "cluster c-1 was not found" "cluster c-1 does not exist" :=
    .inr (by decide +kernel)
  have hreworded : S.Reworded S' := Surroundings.reworded_failing hsynonyms
  obtain ⟨houtcome, hsent⟩ := (disclosed createInfobase creation S ()).2 S' hreworded
  exact ⟨hreworded, houtcome, hsent, by decide +kernel⟩

end Rpc

end InfobaseGateway
