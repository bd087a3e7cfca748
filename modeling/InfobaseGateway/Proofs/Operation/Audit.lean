import InfobaseGateway.Proofs.Operation.OwnEvents
import InfobaseGateway.Proofs.Operation.Performance

/-!
# The audit trail of a removal

A removal that passes its checks is announced by one record and closed by one more. The closing
record is written at five places of the program, and at a sixth one when the call is abandoned, so
what it says could disagree with how the call ends. The courses of an announced removal are listed
once, each with its dialogue, its outcome and its closing record; every run takes one of them, and
what the trail tells is read off the list.
-/

namespace InfobaseGateway

/-- The messages of the records of an audit trail. -/
def auditMessages : List String :=
  ["destructive operation requested", "destructive operation completed",
    "destructive operation failed", "destructive operation cancelled"]

def Event.isAudit (event : Event) : Bool :=
  event.message ∈ auditMessages

/-- No rule takes the text of an endpoint for a withdrawal of the caller. -/
theorem categoryOf_ne_cancelled (text : String) : categoryOf text ≠ .cancelled := by
  have hcategories : ∀ code ∈ ErrorCode.categories, code ≠ .cancelled := by decide
  exact hcategories _ (categoryOf_mem_categories text)

namespace DropInfobase

/-! ## The courses of an announced removal -/

/-- The dialogue of a removal that comes to its request. -/
def asked (request : DropInfobase) (withdrawn withdrawn' : Bool)
    (reply : Option (Except String EndpointResponse)) : List Step :=
  [.checkpoint false, .acquire withdrawn (some (.ok ())), .checkpoint false,
    .send (.unregisterInfobase request.info) withdrawn' reply]

/-- How an announced removal goes: its dialogue, its outcome unless it is abandoned, and the record
that closes its trail. -/
inductive Closes (request : DropInfobase) :
    List Step → Option (Except GatewayError LifecycleOutcome) → Event → Prop
  | withdrawnAtOnce :
      Closes request [.checkpoint true] (some (.error .cancelled))
        (request.cancelled .unregisterOnly "before endpoint acquisition")
  | acquireAbandoned (withdrawn : Bool) :
      Closes request [.checkpoint false, .acquire withdrawn none] none
        (request.cancelled .unregisterOnly "abandoned in flight")
  | acquireFailed (withdrawn : Bool) (text : String) (time : Instant) :
      Closes request [.checkpoint false, .acquire withdrawn (some (.error text))]
        (some (.error (.endpoint (.ofText text))))
        (request.failed .unregisterOnly (.endpoint (.ofText text)) time)
  | withdrawnBeforeSend (withdrawn : Bool) :
      Closes request [.checkpoint false, .acquire withdrawn (some (.ok ())), .checkpoint true]
        (some (.error .cancelledBeforeSend))
        (request.cancelled .unregisterOnly "before RAS request")
  | sendAbandoned (withdrawn withdrawn' : Bool) :
      Closes request (request.asked withdrawn withdrawn' none) none
        (request.cancelled .unregisterOnly "abandoned in flight")
  | sendFailed (withdrawn withdrawn' : Bool) (reply : Except String EndpointResponse)
      (error : GatewayError) (time : Instant)
      (hreceive : Dispatch.receive (.unregisterInfobase request.info) reply = .error error) :
      Closes request (request.asked withdrawn withdrawn' (some reply)) (some (.error error))
        (request.failed .unregisterOnly error time)
  | completed (withdrawn withdrawn' : Bool) (reply : Except String EndpointResponse)
      (info : InfobaseInfo) (time : Instant)
      (hreceive : Dispatch.receive (.unregisterInfobase request.info) reply = .ok info) :
      Closes request (request.asked withdrawn withdrawn' (some reply))
        (some (.ok request.dropped)) (request.completed .unregisterOnly time)

/-! ## Every run takes one of the courses -/

/-- After the dialogue so far, a program leaves one record of the trail, and goes as that record
says. -/
def ClosesAfter (request : DropInfobase) (played : List Step)
    (p : Operation (Except GatewayError LifecycleOutcome)) : Prop :=
  ∀ (σ : Type) (S : Surroundings σ) (s : σ), ∃ closing,
    (p.ownEvents S s).filter Event.isAudit = [closing] ∧
      request.Closes (played ++ dialogueOf (p.run S.silenced s).steps)
        (p.run S.silenced s).outcome closing

namespace ClosesAfter

variable {request : DropInfobase} {played : List Step}

theorem closed
    {event : Event} (haudit : event.isAudit = true)
    {result : Except GatewayError LifecycleOutcome}
    (hcloses : request.Closes played (some result) event) :
    request.ClosesAfter played (.note (.event event) (.done result)) := by
  intro σ S s
  refine ⟨event, ?_, ?_⟩
  · exact List.filter_cons_of_pos haudit
  · show request.Closes (played ++ []) (some result) event
    rwa [List.append_nil]

/-- A record that belongs to no trail does not matter. -/
theorem other
    {event : Event} (haudit : event.isAudit = false)
    {next : Operation (Except GatewayError LifecycleOutcome)}
    (hnext : request.ClosesAfter played next) :
    request.ClosesAfter played (.note (.event event) next) := by
  intro σ S s
  obtain ⟨closing, htrail, hcloses⟩ := hnext σ S s
  refine ⟨closing, ?_, hcloses⟩
  rw [← htrail]
  exact List.filter_cons_of_neg (by simp [haudit])

theorem clock
    {next : Instant → Operation (Except GatewayError LifecycleOutcome)}
    (hnext : ∀ now, request.ClosesAfter played (next now)) :
    request.ClosesAfter played (.clock next) := by
  intro σ S s
  exact hnext (S.clock s).1 σ S (S.clock s).2

theorem checkpoint
    {next : Bool → Operation (Except GatewayError LifecycleOutcome)}
    (hnext : ∀ withdrawn,
      request.ClosesAfter (played ++ [.checkpoint withdrawn]) (next withdrawn)) :
    request.ClosesAfter played (.checkpoint next) := by
  intro σ S s
  obtain ⟨closing, htrail, hcloses⟩ := hnext (S.cancelled s) σ S s
  refine ⟨closing, htrail, ?_⟩
  simpa [Operation.run] using hcloses

theorem acquire
    {event : Event} (haudit : event.isAudit = true)
    {next : Except String Unit → Operation (Except GatewayError LifecycleOutcome)}
    (habandoned : ∀ withdrawn,
      request.Closes (played ++ [.acquire withdrawn none]) none event)
    (hnext : ∀ withdrawn reply,
      request.ClosesAfter (played ++ [.acquire withdrawn (some reply)]) (next reply)) :
    request.ClosesAfter played (.acquire [event] next) := by
  intro σ S s
  simp only [Operation.ownEvents, Run.events_eq_eventsOf, Operation.run,
    Surroundings.silenced_cancelled, Surroundings.silenced_acquire]
  cases (S.acquire s).1.reply with
  | none => exact ⟨event, by simpa using haudit, by simpa using habandoned (S.cancelled s)⟩
  | some reply =>
    obtain ⟨closing, htrail, hcloses⟩ := hnext (S.cancelled s) reply σ S (S.acquire s).2
    rw [Operation.ownEvents, Run.events_eq_eventsOf] at htrail
    exact ⟨closing, by simpa using htrail, by simpa using hcloses⟩

theorem send
    {envelope : EndpointRequest} {event : Event} (haudit : event.isAudit = true)
    {next : Except String EndpointResponse → Operation (Except GatewayError LifecycleOutcome)}
    (habandoned : ∀ withdrawn,
      request.Closes (played ++ [.send envelope withdrawn none]) none event)
    (hnext : ∀ withdrawn reply,
      request.ClosesAfter (played ++ [.send envelope withdrawn (some reply)]) (next reply)) :
    request.ClosesAfter played (.send envelope [event] next) := by
  intro σ S s
  simp only [Operation.ownEvents, Run.events_eq_eventsOf, Operation.run,
    Surroundings.silenced_cancelled, Surroundings.silenced_send]
  cases (S.send envelope s).1.reply with
  | none => exact ⟨event, by simpa using haudit, by simpa using habandoned (S.cancelled s)⟩
  | some reply =>
    obtain ⟨closing, htrail, hcloses⟩ := hnext (S.cancelled s) reply σ S (S.send envelope s).2
    rw [Operation.ownEvents, Run.events_eq_eventsOf] at htrail
    exact ⟨closing, by simpa using htrail, by simpa using hcloses⟩

end ClosesAfter

theorem closesAfter_program (request : DropInfobase) :
    request.ClosesAfter [] request.procedure.program := by
  refine .checkpoint fun withdrawn => ?_
  cases withdrawn with
  | true => exact .closed rfl .withdrawnAtOnce
  | false =>
    refine .acquire rfl .acquireAbandoned fun withdrawn reply => ?_
    cases reply with
    | error text =>
      exact .other rfl (.clock fun time => .closed rfl (.acquireFailed withdrawn text time))
    | ok =>
      refine .checkpoint fun withdrawn' => ?_
      cases withdrawn' with
      | true => exact .closed rfl (.withdrawnBeforeSend withdrawn)
      | false =>
        refine .send rfl (.sendAbandoned withdrawn) fun withdrawn' reply => ?_
        rw [Procedure.closing]
        cases hreceive : Dispatch.receive request.procedure.envelope reply with
        | error error =>
          exact .clock fun time =>
            .closed rfl (.sendFailed withdrawn withdrawn' reply error time hreceive)
        | ok info =>
          exact .clock fun time =>
            .closed rfl (.completed withdrawn withdrawn' reply info time hreceive)

/-! ## The trail -/

/-- The records of the audit trail that a removal leaves. -/
def trail {σ : Type} (request : DropInfobase) (S : Surroundings σ) (s : σ) : List Event :=
  (request.perform.outcome.ownEvents S s).filter Event.isAudit

/-- A removal in the mode that is supported is announced, and then it takes one of its courses. -/
theorem exists_trail_eq {σ : Type}
    {request : DropInfobase} (hvalidate : request.validate = .ok .unregisterOnly)
    (S : Surroundings σ) (s : σ) :
    ∃ time closing,
      request.trail S s = [request.requested .unregisterOnly time, closing] ∧
        request.Closes (dialogueOf (request.perform.outcome.run S s).steps)
          (request.perform.outcome.run S s).outcome closing := by
  obtain ⟨hdialogue, houtcome, -, -⟩ := request.perform.outcome.run_silenced S s
  rw [← hdialogue, ← houtcome, trail, outcome_perform hvalidate]
  obtain ⟨closing, htrail, hcloses⟩ :=
    request.closesAfter_program σ S (S.clock s).2
  exact ⟨(S.clock s).1, closing, congrArg (_ :: ·) htrail, hcloses⟩

/-- A removal that is refused leaves no trail. -/
theorem trail_eq_nil {σ : Type}
    {request : DropInfobase} (hvalidate : request.validate ≠ .ok .unregisterOnly)
    (S : Surroundings σ) (s : σ) : request.trail S s = [] := by
  rw [trail, perform, outcome_ensure_bind]
  cases hmode : request.validate with
  | error error => rfl
  | ok mode =>
    have hother : mode ≠ .unregisterOnly := by
      rintro rfl
      exact hvalidate hmode
    simp only [if_pos hother]
    rfl

/-! ## What the closing record says -/

/-- The provider or the endpoint answered with this text of a failure. -/
def FailsWith (steps : List Step) (text : String) : Prop :=
  (∃ withdrawn, .acquire withdrawn (some (.error text)) ∈ steps) ∨
    ∃ envelope withdrawn, .send envelope withdrawn (some (.error text)) ∈ steps

theorem failsWith_dialogueOf_iff (steps : List Step) (text : String) :
    FailsWith (dialogueOf steps) text ↔ FailsWith steps text := by
  simp [FailsWith, dialogueOf, Step.isContact]

/-- A failed request was not a withdrawal, whatever the endpoint replied. -/
theorem code_ne_cancelled_of_receive
    {envelope : EndpointRequest} {reply : Except String EndpointResponse} {error : GatewayError}
    (hreceive : Dispatch.receive envelope reply = .error error) : error.code ≠ .cancelled := by
  cases reply with
  | error text =>
    cases hreceive
    show (EndpointError.ofText text).code ≠ .cancelled
    rw [EndpointError.code_ofText]
    exact categoryOf_ne_cancelled text
  | ok response =>
    rw [Dispatch.eq_unexpectedResponse_of_receive_ok hreceive]
    exact nofun

namespace Closes

variable {request : DropInfobase} {dialogue : List Step}
  {outcome : Option (Except GatewayError LifecycleOutcome)} {closing : Event}

theorem completed_iff (h : request.Closes dialogue outcome closing) :
    (closing.level = .warn ∧ closing.message = "destructive operation completed") ↔
      ∃ result, outcome = some (.ok result) := by
  cases h with
  | _ => simp [DropInfobase.cancelled, DropInfobase.failed, DropInfobase.completed]

theorem failed_iff (h : request.Closes dialogue outcome closing) :
    (closing.level = .error ∧ closing.message = "destructive operation failed") ↔
      ∃ error, outcome = some (.error error) ∧ error.code ≠ .cancelled := by
  cases h with
  | acquireFailed withdrawn text time =>
    have hcode := categoryOf_ne_cancelled text
    simpa [DropInfobase.failed, GatewayError.code, EndpointError.code_ofText] using hcode
  | sendFailed withdrawn withdrawn' reply error time hreceive =>
    simpa [DropInfobase.failed] using code_ne_cancelled_of_receive hreceive
  | _ => simp [DropInfobase.cancelled, DropInfobase.completed, GatewayError.code]

theorem cancelled_iff (h : request.Closes dialogue outcome closing) :
    (closing.level = .info ∧ closing.message = "destructive operation cancelled") ↔
      outcome = none ∨ ∃ error, outcome = some (.error error) ∧ error.code = .cancelled := by
  cases h with
  | acquireFailed withdrawn text time =>
    have hcode := categoryOf_ne_cancelled text
    simpa [DropInfobase.failed, GatewayError.code, EndpointError.code_ofText] using hcode
  | sendFailed withdrawn withdrawn' reply error time hreceive =>
    simpa [DropInfobase.failed] using code_ne_cancelled_of_receive hreceive
  | _ => simp [DropInfobase.cancelled, DropInfobase.completed, GatewayError.code]

/-- The closing record of a failure shows its detail. -/
theorem field?_failed (mode : DropMode) (error : GatewayError) (time : Instant) :
    (request.failed mode error time).field? "error" = some error.logDetail :=
  rfl

theorem error_eq_text
    (h : request.Closes dialogue outcome closing) {text : String}
    (hfails : FailsWith dialogue text) : closing.field? "error" = some text := by
  cases h with
  | acquireFailed withdrawn told time =>
    have hsame : text = told := by simpa [FailsWith] using hfails
    rw [field?_failed, hsame]
    exact congrArg some (EndpointError.detail_ofText told)
  | sendFailed withdrawn withdrawn' reply error time hreceive =>
    have hreply : .error text = reply := by simpa [FailsWith, asked] using hfails
    subst hreply
    cases hreceive
    exact congrArg some (EndpointError.detail_ofText text)
  | completed withdrawn withdrawn' reply info time hreceive =>
    have hreply : .error text = reply := by simpa [FailsWith, asked] using hfails
    subst hreply
    cases hreceive
  | _ => simp [FailsWith, asked] at hfails

theorem error_eq_detail
    (h : request.Closes dialogue outcome closing) {error : GatewayError}
    (hfailed : outcome = some (.error error)) (hcode : error.code ≠ .cancelled) :
    closing.field? "error" = some error.logDetail := by
  cases h with
  | withdrawnAtOnce | withdrawnBeforeSend =>
    cases hfailed
    exact absurd rfl hcode
  | acquireAbandoned | sendAbandoned | completed => cases hfailed
  | acquireFailed withdrawn text time =>
    cases hfailed
    rfl
  | sendFailed withdrawn withdrawn' reply error time hreceive =>
    cases hfailed
    rfl

/-- The closing record of a cancellation shows its stage. -/
theorem field?_cancelled (mode : DropMode) (stage : String) :
    (request.cancelled mode stage).field? "stage" = some stage :=
  rfl

theorem stage_iff (h : request.Closes dialogue outcome closing) :
    (closing.field? "stage" = some "before endpoint acquisition" ↔
        (checkpointsOf dialogue)[0]? = some true) ∧
      (closing.field? "stage" = some "before RAS request" ↔
        (checkpointsOf dialogue)[1]? = some true) ∧
      (closing.field? "stage" = some "abandoned in flight" ↔ outcome = none) := by
  have hfailed (error : GatewayError) (time : Instant) :
      (request.failed .unregisterOnly error time).field? "stage" = none := rfl
  have hcompleted (time : Instant) :
      (request.completed .unregisterOnly time).field? "stage" = none := rfl
  have hasked (withdrawn withdrawn' : Bool) (reply : Option (Except String EndpointResponse)) :
      checkpointsOf (request.asked withdrawn withdrawn' reply) = [false, false] := rfl
  cases h with
  | withdrawnBeforeSend withdrawn =>
    have hsecond :
        checkpointsOf
          [.checkpoint false, .acquire withdrawn (some (.ok ())), .checkpoint true] =
          [false, true] := rfl
    simp [field?_cancelled, hsecond]
  | sendAbandoned => simp [field?_cancelled, hasked]
  | sendFailed => simp [hfailed, hasked]
  | completed => simp [hcompleted, hasked]
  | withdrawnAtOnce | acquireAbandoned =>
    simp [field?_cancelled, checkpointsOf, Step.checkpoint?]
  | acquireFailed => simp [hfailed, checkpointsOf, Step.checkpoint?]

end Closes

/-- The closing record of a trail agrees with how the call went and how it ended. -/
structure Settles (closing : Event) (steps : List Step)
    (outcome : Option (Except GatewayError LifecycleOutcome)) : Prop where
  completed_iff :
    (closing.level = .warn ∧ closing.message = "destructive operation completed") ↔
      ∃ result, outcome = some (.ok result)
  failed_iff :
    (closing.level = .error ∧ closing.message = "destructive operation failed") ↔
      ∃ error, outcome = some (.error error) ∧ error.code ≠ .cancelled
  cancelled_iff :
    (closing.level = .info ∧ closing.message = "destructive operation cancelled") ↔
      outcome = none ∨ ∃ error, outcome = some (.error error) ∧ error.code = .cancelled
  /-- A failure of the provider or of the endpoint is told in their own words. -/
  error_eq_text : ∀ text, FailsWith steps text → closing.field? "error" = some text
  error_eq_detail : ∀ error, outcome = some (.error error) → error.code ≠ .cancelled →
    closing.field? "error" = some error.logDetail
  first_stage_iff :
    closing.field? "stage" = some "before endpoint acquisition" ↔
      (checkpointsOf steps)[0]? = some true
  second_stage_iff :
    closing.field? "stage" = some "before RAS request" ↔
      (checkpointsOf steps)[1]? = some true
  abandoned_stage_iff :
    closing.field? "stage" = some "abandoned in flight" ↔ outcome = none

theorem Closes.settles
    {request : DropInfobase} {steps : List Step}
    {outcome : Option (Except GatewayError LifecycleOutcome)} {closing : Event}
    (h : request.Closes (dialogueOf steps) outcome closing) : Settles closing steps outcome where
  completed_iff := h.completed_iff
  failed_iff := h.failed_iff
  cancelled_iff := h.cancelled_iff
  error_eq_text := fun text hfails =>
    h.error_eq_text ((failsWith_dialogueOf_iff steps text).mpr hfails)
  error_eq_detail := fun _ hfailed hcode => h.error_eq_detail hfailed hcode
  first_stage_iff := by
    rw [← checkpointsOf_dialogueOf]
    exact h.stage_iff.1
  second_stage_iff := by
    rw [← checkpointsOf_dialogueOf]
    exact h.stage_iff.2.1
  abandoned_stage_iff := h.stage_iff.2.2

/-- The audit trail of a removal is complete and single. In all surroundings, a valid request in the
mode that is supported leaves two records: the announcement, and one closing record that agrees with
the course of the call. Every other request leaves none. -/
theorem audited {σ : Type} (request : DropInfobase) (S : Surroundings σ) (s : σ) :
    (request.Valid ∧ request.dropMode = some .unregisterOnly →
        ∃ opening closing, request.trail S s = [opening, closing] ∧
          (opening.level = .warn ∧ opening.message = "destructive operation requested") ∧
          Settles closing (request.perform.outcome.run S s).steps
            (request.perform.outcome.run S s).outcome) ∧
      (¬(request.Valid ∧ request.dropMode = some .unregisterOnly) → request.trail S s = []) := by
  have hsupported :
      request.Valid ∧ request.dropMode = some .unregisterOnly ↔
        request.validate = .ok .unregisterOnly := by
    rw [validate_eq_ok_iff]
    constructor
    · rintro ⟨hvalid, hmode⟩
      exact ⟨hvalid.cluster, hvalid.infobase, hmode⟩
    · rintro ⟨hcluster, hinfobase, hmode⟩
      exact ⟨⟨hcluster, hinfobase, by simp [hmode]⟩, hmode⟩
  rw [hsupported]
  constructor
  · intro hvalidate
    obtain ⟨time, closing, htrail, hcloses⟩ := exists_trail_eq hvalidate S s
    exact ⟨_, closing, htrail, ⟨rfl, rfl⟩, hcloses.settles⟩
  · intro hrefused
    exact trail_eq_nil hrefused S s

end DropInfobase

end InfobaseGateway
