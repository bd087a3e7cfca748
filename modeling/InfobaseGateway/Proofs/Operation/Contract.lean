import InfobaseGateway.Proofs.Operation.Performance

/-!
# What operations come to

An operation that is admitted comes to its envelope, and it tells its caller how that was answered.
With a search it comes to the search first, and it may end with what that finds. These contracts
hold from any point between two steps on, so they say how a call goes on when others come in
between.

A contract speaks of what callers are told through a function `tell`, because a call words the
result of its operation before it ends.
-/

namespace InfobaseGateway

variable {α β : Type}

/-- What a caller is told about a failure. -/
def IsFailure (tell : Except GatewayError α → β) (told : β) : Prop :=
  ∃ error, told = tell (.error error)

namespace Procedure

/-! ## Contracts -/

section Contracts

variable (procedure : Procedure α) (tell : Except GatewayError α → β)

/-- An operation on its way to its envelope. -/
def Pending (rest : Operation β) : Prop :=
  rest.Comes (IsFailure tell) procedure.envelope fun reply rest =>
    rest.Ends fun told => told = tell (procedure.conclusion reply)

/-- The rest of an operation after the reply to its search. -/
def LookedUp (search : Search α) (reply : Except String EndpointResponse)
    (rest : Operation β) : Prop :=
  match search.closing? reply with
  | some closing => rest.Ends fun told => told = tell closing.result
  | none => procedure.Pending tell rest

/-- An operation on its way to its search. -/
def Looking (search : Search α) (p : Operation β) : Prop :=
  p.Comes (IsFailure tell) search.envelope (procedure.LookedUp tell search)

end Contracts

/-! ## The program of a procedure -/

section Program

variable {procedure : Procedure α} {request : EndpointRequest}
  {onwards : Except String EndpointResponse → Operation (Except GatewayError α) → Prop}
  {next : Operation (Except GatewayError α)}

theorem ends_setback (procedure : Procedure α) (setback : Setback) :
    (procedure.setback setback).program.Ends (IsFailure id) := by
  refine (procedure.setback setback).ends.mono ?_
  rintro result rfl
  exact ⟨setback.error, rfl⟩

theorem comes_looking (look : Look) (hnext : next.Comes (IsFailure id) request onwards) :
    (procedure.looking look next).Comes (IsFailure id) request onwards :=
  .checkpoint (procedure.ends_setback _) hnext

theorem comes_acquiring (hnext : next.Comes (IsFailure id) request onwards) :
    (procedure.acquiring next).Comes (IsFailure id) request onwards :=
  .acquire (fun _ => procedure.ends_setback _) hnext

theorem pending_asking (procedure : Procedure α) : procedure.Pending id procedure.asking :=
  comes_looking _ (.send fun reply => (procedure.closing reply).ends)

theorem pending_program (hsearch : procedure.search? = none) :
    procedure.Pending id procedure.program := by
  have hsearching : procedure.searching procedure.asking = procedure.asking := by
    rw [searching, hsearch]
  rw [program, hsearching]
  exact comes_looking _ (comes_acquiring procedure.pending_asking)

theorem looking_program {search : Search α} (hsearch : procedure.search? = some search) :
    procedure.Looking id search procedure.program := by
  refine comes_looking _ (comes_acquiring ?_)
  rw [searching, hsearch]
  refine .send fun reply => ?_
  rw [LookedUp, Search.onwards]
  cases search.closing? reply with
  | some closing => exact closing.ends
  | none => exact procedure.pending_asking

end Program

/-! ## Conclusions -/

/-- An answer of the expected kind is a success, unless an id may be missing. -/
theorem Concludes.exists_conclusion_eq_ok
    {procedure : Procedure α} {excused : Prop} (h : procedure.Concludes excused)
    (hnever : ¬excused) {response : EndpointResponse}
    (hexpected : ∃ content, response.content? procedure.envelope.expects = some content) :
    ∃ value, procedure.conclusion (.ok response) = .ok value := by
  obtain ⟨content, hcontent⟩ := hexpected
  have hconclusion :
      procedure.conclusion (.ok response) = (procedure.conclude content).result := by
    simp only [conclusion, closing, Dispatch.receive, hcontent]
  rw [hconclusion]
  rcases h.answered content with hok | ⟨hexcused, -⟩
  · exact hok
  · exact absurd hexcused hnever

/-- Only an answer of the expected kind is a success. -/
theorem exists_content_of_conclusion_eq_ok
    {procedure : Procedure α} {reply : Except String EndpointResponse} {value : α}
    (hok : procedure.conclusion reply = .ok value) :
    ∃ content, Dispatch.receive procedure.envelope reply = .ok content ∧
      (procedure.conclude content).result = .ok value := by
  rw [conclusion, closing] at hok
  cases hreceive : Dispatch.receive procedure.envelope reply with
  | ok content =>
    rw [hreceive] at hok
    exact ⟨content, rfl, hok⟩
  | error error =>
    rw [hreceive] at hok
    cases hok

/-! ## Calls

A call tells what its operation comes to. -/

section Bind

variable {procedure : Procedure α} {search : Search α} {tell : Except GatewayError α → β}
  {f : Except GatewayError α → Operation β} {p : Operation (Except GatewayError α)}

theorem ends_bind_tell
    {result : Except GatewayError α} (h : p.Ends fun told => told = result)
    (hf : ∀ result, (f result).Ends fun told => told = tell result) :
    (p.bind f).Ends fun told => told = tell result := by
  refine h.bind ?_
  rintro told rfl
  exact hf told

theorem ends_of_isFailure
    (hf : ∀ result, (f result).Ends fun told => told = tell result) {result : Except GatewayError α}
    (hfailure : IsFailure id result) : (f result).Ends (IsFailure tell) := by
  obtain ⟨error, rfl⟩ := hfailure
  exact (hf _).mono fun told htold => ⟨error, htold⟩

theorem Pending.bind
    (h : procedure.Pending id p) (hf : ∀ result, (f result).Ends fun told => told = tell result) :
    procedure.Pending tell (p.bind f) :=
  Operation.Comes.bind h (fun _ => ends_of_isFailure hf) fun _ _ hrest => ends_bind_tell hrest hf

theorem Looking.bind
    (h : procedure.Looking id search p)
    (hf : ∀ result, (f result).Ends fun told => told = tell result) :
    procedure.Looking tell search (p.bind f) := by
  refine Operation.Comes.bind h (fun _ => ends_of_isFailure hf) fun reply rest hrest => ?_
  unfold LookedUp at hrest ⊢
  cases hclosing : search.closing? reply with
  | some closing =>
    rw [hclosing] at hrest
    exact ends_bind_tell hrest hf
  | none =>
    rw [hclosing] at hrest
    exact Pending.bind hrest hf

end Bind

end Procedure

/-! ## Tasks -/

namespace GatewayTask

variable {task : GatewayTask}

/-- A task that is never turned down comes to what its procedure comes to. -/
theorem comes_perform
    {request : EndpointRequest}
    {onwards : Except String EndpointResponse → Operation (Except GatewayError task.Result) → Prop}
    (hadmitted : ∀ now, ¬task.Refused now)
    (h : task.procedure.program.Comes (IsFailure id) request onwards) :
    task.perform.outcome.Comes (IsFailure id) request onwards := by
  rw [outcome_perform]
  refine task.prepares.followedBy_quiet (Operation.quiet_comes _ _ _) ?_ h
  intro now error hverdict
  exact absurd ((task.refused_iff now).mpr ⟨error, hverdict⟩) (hadmitted now)

end GatewayTask

/-- A valid creation comes to its lookup. -/
theorem CreateInfobase.looking_perform {request : CreateInfobase} (hvalid : request.Valid) :
    request.procedure.Looking id request.search request.perform.outcome := by
  have hadmitted (now : Instant) : ¬(GatewayTask.create request).Refused now := by
    rintro (hinvalid | hunsupported)
    · exact hinvalid hvalid
    · exact hunsupported
  exact GatewayTask.comes_perform hadmitted (Procedure.looking_program rfl)

/-- A valid removal in the mode that is supported comes to its request. -/
theorem DropInfobase.pending_perform
    {request : DropInfobase} (hvalidate : request.validate = .ok .unregisterOnly) :
    request.procedure.Pending id request.perform.outcome := by
  have hadmission : request.admission = .ok () := by
    rw [admission, hvalidate]
    rfl
  have hadmitted (now : Instant) : ¬(GatewayTask.drop request).Refused now := by
    rw [GatewayTask.refused_iff]
    rintro ⟨error, herror⟩
    cases hadmission.symm.trans herror
  exact GatewayTask.comes_perform hadmitted (Procedure.pending_program rfl)

end InfobaseGateway
