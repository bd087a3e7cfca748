import InfobaseGateway.Proofs.Operation.Contract
import InfobaseGateway.Proofs.Store.Identity

/-!
# Operations on an infobase that is not there

An update, a removal, a lock, an unlock and a query for sessions all name an infobase. If it is not
there, the service turns their request down, and they fail as not found, unless their own request is
at fault. This is again a prospect: it follows a program from any point between two of its steps, so
it does not matter what other calls do meanwhile, as long as they do not bring the infobase back.
-/

namespace InfobaseGateway

namespace Operation

variable {α β : Type} {clusterId infobaseId : String} {times : Instant → Prop}

/-- As long as its caller does not withdraw and there is an endpoint, the program asks for nothing
but the infobase, and it ends with a result that has the property if every request is turned down
because something is missing. It reads the clock at the given times. -/
inductive Misses (clusterId infobaseId : String) (times : Instant → Prop) (P : α → Prop) :
    Operation α → Prop
  | done {result : α} (hresult : P result) : Misses clusterId infobaseId times P (.done result)
  | note (n : Note) {next : Operation α} (hnext : Misses clusterId infobaseId times P next) :
      Misses clusterId infobaseId times P (.note n next)
  | checkpoint {next : Bool → Operation α}
      (hnext : Misses clusterId infobaseId times P (next false)) :
      Misses clusterId infobaseId times P (.checkpoint next)
  | clock {next : Instant → Operation α}
      (hnext : ∀ now, times now → Misses clusterId infobaseId times P (next now)) :
      Misses clusterId infobaseId times P (.clock next)
  | acquire {abandoned : List Event} {next : Except String Unit → Operation α}
      (hnext : Misses clusterId infobaseId times P (next (.ok ()))) :
      Misses clusterId infobaseId times P (.acquire abandoned next)
  | send {request : EndpointRequest} {abandoned : List Event}
      {next : Except String EndpointResponse → Operation α}
      (hconcerns : request.Concerns clusterId infobaseId)
      (hnext : ∀ rejection : Rejection, rejection.IsMissing →
        Misses clusterId infobaseId times P (next (.error rejection.message))) :
      Misses clusterId infobaseId times P (.send request abandoned next)

theorem Ends.misses {P : α → Prop} {p : Operation α} (h : p.Ends P) :
    p.Misses clusterId infobaseId times P := by
  induction h with
  | done hresult => exact .done hresult
  | note n hnext ih => exact .note n ih
  | clock hnext ih => exact .clock fun now _ => ih now

theorem Misses.bind
    {P : α → Prop} {Q : β → Prop} {p : Operation α} {f : α → Operation β}
    (h : p.Misses clusterId infobaseId times P)
    (hf : ∀ result, P result → (f result).Misses clusterId infobaseId times Q) :
    (p.bind f).Misses clusterId infobaseId times Q := by
  induction h with
  | done hresult => exact hf _ hresult
  | note n hnext ih => exact .note n ih
  | checkpoint hnext ih => exact .checkpoint ih
  | clock hnext ih => exact .clock ih
  | acquire hnext ih => exact .acquire ih
  | send hconcerns hnext ih => exact .send hconcerns ih

/-- A program that comes to a request for the infobase misses it if what follows a rejection
does. -/
theorem Comes.misses
    {failure P : α → Prop} {request : EndpointRequest}
    {onwards : Except String EndpointResponse → Operation α → Prop} {p : Operation α}
    (h : p.Comes failure request onwards) (hconcerns : request.Concerns clusterId infobaseId)
    (honwards : ∀ rejection : Rejection, rejection.IsMissing → ∀ rest,
      onwards (.error rejection.message) rest → rest.Misses clusterId infobaseId times P) :
    p.Misses clusterId infobaseId times P := by
  induction h with
  | note n hnext ih => exact .note n ih
  | clock hnext ih => exact .clock fun now _ => ih now
  | checkpoint hwithdrawn hnext ih => exact .checkpoint ih
  | acquire hfailed hnext ih => exact .acquire ih
  | send hnext =>
    refine .send hconcerns fun rejection hmissing => ?_
    exact honwards rejection hmissing _ (hnext _)

end Operation

/-! ## Failures of what is missing -/

/-- A failure because something is missing, or because the request itself is at fault. -/
def GatewayError.IsMiss (invalid unsupported : Prop) (error : GatewayError) : Prop :=
  error.code = .notFound ∨ (error.code = .invalidArgument ∧ invalid) ∨
    (error.code = .unimplemented ∧ unsupported)

/-- A rejection because something is missing reads as not found. -/
theorem isMiss_of_isMissing
    {invalid unsupported : Prop} {rejection : Rejection} (hmissing : rejection.IsMissing) :
    (GatewayError.endpoint (.ofText rejection.message)).IsMiss invalid unsupported := by
  have hcode : (EndpointError.ofText rejection.message).code = .notFound := by
    rw [EndpointError.code_ofText, Rejection.categoryOf_message_of_isMissing hmissing]
  exact .inl hcode

namespace GatewayTask

variable {clusterId infobaseId : String} {times : Instant → Prop} {task : GatewayTask}

/-- A task that is turned down at one of its times is at fault itself. -/
theorem isMiss_of_admission
    {now : Instant} {error : GatewayError} (hnow : times now)
    (hverdict : task.admission now = .error error) :
    error.IsMiss (∃ now, times now ∧ ¬task.Valid now) task.Unsupported := by
  have hadmits := task.admits_admission now
  rw [hverdict] at hadmits
  cases hadmits with
  | invalid hinvalid error => exact .inr (.inl ⟨rfl, now, hnow, hinvalid⟩)
  | unsupported hvalid hunsupported mode => exact .inr (.inr ⟨rfl, hunsupported⟩)

/-- Every task that is about the infobase fails because it is missing, or because its own request is
at fault at one of the times that it reads. -/
theorem misses_perform
    (hconcerns : task.envelope.Concerns clusterId infobaseId) {now : Instant} (hnow : times now) :
    task.perform.outcome.Misses clusterId infobaseId times fun result =>
      ∃ error, result = .error error ∧
        error.IsMiss (∃ now, times now ∧ ¬task.Valid now) task.Unsupported := by
  have hother : ¬task.IsCreation := by
    rintro ⟨request, rfl⟩
    exact hconcerns
  rw [outcome_perform]
  refine task.prepares.followedBy_induct times ⟨now, hnow⟩ (fun _ => .note _) .clock ?_ ?_
  · intro now error hnow hverdict
    exact .done ⟨error, rfl, isMiss_of_admission hnow hverdict⟩
  · have hpending := Procedure.pending_program (search?_eq_none hother)
    refine Operation.Comes.misses hpending (task.envelope_procedure ▸ hconcerns) ?_
    intro rejection hmissing rest hends
    refine (hends.mono ?_).misses
    rintro result rfl
    exact ⟨_, rfl, isMiss_of_isMissing hmissing⟩

end GatewayTask

end InfobaseGateway
