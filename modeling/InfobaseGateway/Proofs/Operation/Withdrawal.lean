import InfobaseGateway.Proofs.Operation.Conversation
import InfobaseGateway.Proofs.Operation.Guarded

/-!
# Withdrawal of the caller

What it means for the runs of a task that it looks for its caller in time, whatever its surroundings
answer and whenever the caller withdraws. Once it is gone, no endpoint is asked for and no envelope
is sent, and the task ends as cancelled where it looks next. The exception is the lookup of a
creation: a withdrawal while the endpoint is acquired goes unnoticed until the lookup is answered.
-/

namespace InfobaseGateway

/-- A caller that withdrew does not come back. -/
structure Surroundings.WithdrawalLasts {σ : Type} (S : Surroundings σ) : Prop where
  clock : ∀ s, S.cancelled s = true → S.cancelled (S.clock s).2 = true
  acquire : ∀ s, S.cancelled s = true → S.cancelled (S.acquire s).2 = true
  send : ∀ request s, S.cancelled s = true → S.cancelled (S.send request s).2 = true

/-! ## Runs with a caller who may withdraw -/

/-- A contact that was made while the caller was present, unless it needs no look. -/
def Step.InTime (exempt : EndpointRequest → Prop) : Step → Prop
  | .acquire cancelled _ => cancelled = false
  | .send request cancelled _ => cancelled = false ∨ exempt request
  | _ => True

namespace Operation

section Present

variable {σ α : Type} {exempt : EndpointRequest → Prop} {stance : Stance} {S : Surroundings σ}
  {p : Operation (Except GatewayError α)}

/-- A program that only ends makes no contact, and does end. -/
theorem Ends.run
    {P : α → Prop} {p : Operation α} (h : p.Ends P) (S : Surroundings σ) (s : σ) :
    dialogueOf (p.run S s).steps = [] ∧ ∃ result, (p.run S s).outcome = some result ∧ P result := by
  induction h generalizing s with
  | done hresult => exact ⟨rfl, _, rfl, hresult⟩
  | note n hnext ih => exact ih s
  | clock hnext ih => exact ih (S.clock s).1 (S.clock s).2

/-- Every contact of a run is made in time. The stance carries what the program knows: where it is
assured, its caller is still there. -/
theorem Guarded.inTime
    (h : p.Guarded exempt stance) (s : σ)
    (hstance : ∀ holds, stance = .assured holds → S.cancelled s = false) :
    ∀ step ∈ dialogueOf (p.run S s).steps, step.InTime exempt := by
  induction h generalizing s with
  | done holds result => exact List.forall_mem_nil _
  | note n hnext ih => exact ih s hstance
  | clock hnext ih => exact ih _ _ fun holds hassured => nomatch hassured
  | checkpoint hwithdrawn hnext ih =>
    rw [dialogueOf_run_checkpoint, List.forall_mem_cons]
    refine ⟨trivial, ?_⟩
    cases hcancelled : S.cancelled s with
    | true =>
      rw [(hwithdrawn.run S s).1]
      exact List.forall_mem_nil _
    | false => exact ih s fun _ _ => hcancelled
  | acquire hfailed hnext ihFailed ih =>
    rw [dialogueOf_run_acquire, List.forall_mem_cons]
    refine ⟨hstance false rfl, ?_⟩
    cases (S.acquire s).1.reply with
    | none => exact List.forall_mem_nil _
    | some reply =>
      cases reply with
      | ok => exact ih _ fun holds hassured => nomatch hassured
      | error text => exact ihFailed text _ fun holds hassured => nomatch hassured
  | send hnext ih =>
    rw [dialogueOf_run_send, List.forall_mem_cons]
    refine ⟨.inl (hstance true rfl), ?_⟩
    cases (S.send _ s).1.reply with
    | none => exact List.forall_mem_nil _
    | some reply => exact ih reply _ fun holds hassured => nomatch hassured
  | sendExempt hexempt hnext ih =>
    rw [dialogueOf_run_send, List.forall_mem_cons]
    refine ⟨.inr hexempt, ?_⟩
    cases (S.send _ s).1.reply with
    | none => exact List.forall_mem_nil _
    | some reply => exact ih reply _ fun holds hassured => nomatch hassured

/-- A look that finds the caller gone ends the program as cancelled. -/
theorem Guarded.cancelled_of_seen
    (h : p.Guarded exempt stance) (s : σ)
    (hseen : .checkpoint true ∈ dialogueOf (p.run S s).steps) :
    ∃ result, (p.run S s).outcome = some result ∧ IsCancellation result := by
  induction h generalizing s with
  | done holds result => cases hseen
  | note n hnext ih => exact ih s hseen
  | clock hnext ih => exact ih _ _ hseen
  | checkpoint hwithdrawn hnext ih =>
    rw [dialogueOf_run_checkpoint] at hseen
    simp only [run, Run.after_outcome]
    cases hcancelled : S.cancelled s with
    | true => exact (hwithdrawn.run S s).2
    | false =>
      rw [hcancelled] at hseen
      rcases List.mem_cons.mp hseen with hfirst | hlater
      · cases hfirst
      · exact ih s hlater
  | acquire hfailed hnext ihFailed ih =>
    rw [dialogueOf_run_acquire] at hseen
    have hlater := List.mem_of_ne_of_mem (by simp) hseen
    simp only [run]
    cases hreply : (S.acquire s).1.reply with
    | none =>
      rw [hreply] at hlater
      cases hlater
    | some reply =>
      rw [hreply] at hlater
      cases reply with
      | ok => exact ih _ hlater
      | error text => exact ihFailed text _ hlater
  | send hnext ih | sendExempt hexempt hnext ih =>
    rw [dialogueOf_run_send] at hseen
    have hlater := List.mem_of_ne_of_mem (by simp) hseen
    simp only [run]
    cases hreply : (S.send _ s).1.reply with
    | none =>
      rw [hreply] at hlater
      cases hlater
    | some reply =>
      rw [hreply] at hlater
      exact ih reply _ hlater

end Present

section Gone

variable {σ α : Type} {exempt : EndpointRequest → Prop} {stance : Stance} {S : Surroundings σ}
  {p : Operation (Except GatewayError α)}

/-- After the caller withdrew, a program that is not assured of it asks for no endpoint, and it
sends only what needs no look. Without its endpoint it makes no contact at all. -/
theorem Guarded.exempt_of_gone
    (h : p.Guarded exempt stance) (hlasts : S.WithdrawalLasts) (s : σ)
    (hgone : S.cancelled s = true) (hstance : ∀ holds, stance ≠ .assured holds) :
    ∀ contact ∈ conversationOf (dialogueOf (p.run S s).steps),
      stance.holds = true ∧ ∃ request, contact = .send request ∧ exempt request := by
  induction h generalizing s with
  | done holds result => exact List.forall_mem_nil _
  | note n hnext ih => exact ih s hgone hstance
  | clock hnext ih => exact ih _ _ (hlasts.clock s hgone) hstance
  | checkpoint hwithdrawn hnext ih =>
    rw [dialogueOf_run_checkpoint, hgone, (hwithdrawn.run S s).1]
    exact List.forall_mem_nil _
  | acquire hfailed hnext ihFailed ih => exact absurd rfl (hstance false)
  | send hnext ih => exact absurd rfl (hstance true)
  | @sendExempt request abandoned next hexempt hnext ih =>
    intro contact hcontact
    refine ⟨rfl, ?_⟩
    rw [dialogueOf_run_send, mem_conversationOf_cons_iff] at hcontact
    rcases hcontact with hfirst | hlater
    · exact ⟨request, (Option.some.inj hfirst).symm, hexempt⟩
    · cases hreply : (S.send request s).1.reply with
      | none =>
        rw [hreply] at hlater
        cases hlater
      | some reply =>
        rw [hreply] at hlater
        have hstill : S.cancelled (S.send request s).2 = true := hlasts.send request s hgone
        exact (ih reply _ hstill (fun holds hassured => nomatch hassured) contact hlater).2

/-- The state in which a program gets its first endpoint, if it gets one. -/
def endpointAt (S : Surroundings σ) : Operation α → σ → Option σ
  | .done _, _ => none
  | .note _ next, s => next.endpointAt S s
  | .checkpoint next, s => (next (S.cancelled s)).endpointAt S s
  | .clock next, s => (next (S.clock s).1).endpointAt S (S.clock s).2
  | .acquire _ next, s =>
    match (S.acquire s).1.reply with
    | some (.ok ()) => some (S.acquire s).2
    | some (.error text) => (next (.error text)).endpointAt S (S.acquire s).2
    | none => none
  | .send request _ next, s =>
    match (S.send request s).1.reply with
    | some reply => (next reply).endpointAt S (S.send request s).2
    | none => none

theorem Ends.endpointAt
    {P : α → Prop} {p : Operation α} (h : p.Ends P) (S : Surroundings σ) (s : σ) :
    p.endpointAt S s = none := by
  induction h generalizing s with
  | done hresult => rfl
  | note n hnext ih => exact ih s
  | clock hnext ih => exact ih (S.clock s).1 (S.clock s).2

/-- A program that just got its endpoint finds out that its caller is gone, unless it sends
something that needs no look. -/
theorem Guarded.seen_of_equipped
    (h : p.Guarded exempt stance) (hstance : stance = .equipped) (s : σ)
    (hgone : S.cancelled s = true) :
    .checkpoint true ∈ dialogueOf (p.run S s).steps ∨
      ∃ request ∈ sentOf (dialogueOf (p.run S s).steps), exempt request := by
  induction h generalizing s with
  | done holds result => cases hstance
  | note n hnext ih => exact ih hstance s hgone
  | clock hnext ih => cases hstance
  | checkpoint hwithdrawn hnext ih =>
    rw [dialogueOf_run_checkpoint, hgone]
    exact .inl List.mem_cons_self
  | acquire hfailed hnext ihFailed ih => cases hstance
  | send hnext ih => cases hstance
  | @sendExempt request abandoned next hexempt hnext ih =>
    rw [dialogueOf_run_send]
    exact .inr ⟨request, List.mem_cons_self, hexempt⟩

/-- A program whose caller is gone when it gets its endpoint sends only what needs no look, and ends
as cancelled if it does not even send that. -/
theorem Guarded.exempt_of_gone_at_endpoint
    (h : p.Guarded exempt stance) (hstance : stance.holds = false) (hlasts : S.WithdrawalLasts)
    (s : σ) {state : σ} (hat : p.endpointAt S s = some state)
    (hgone : S.cancelled state = true) :
    (∀ request ∈ sentOf (dialogueOf (p.run S s).steps), exempt request) ∧
      (.checkpoint true ∈ dialogueOf (p.run S s).steps ∨
        ∃ request ∈ sentOf (dialogueOf (p.run S s).steps), exempt request) := by
  induction h generalizing s with
  | done holds result => cases hat
  | note n hnext ih => exact ih hstance s hat
  | clock hnext ih => exact ih _ hstance _ hat
  | checkpoint hwithdrawn hnext ih =>
    rw [dialogueOf_run_checkpoint]
    simp only [Operation.endpointAt] at hat
    cases hcancelled : S.cancelled s with
    | true =>
      rw [hcancelled, hwithdrawn.endpointAt S s] at hat
      cases hat
    | false =>
      rw [hcancelled] at hat
      obtain ⟨hsent, hends⟩ := ih hstance s hat
      exact ⟨hsent, hends.imp_left (List.mem_cons_of_mem _)⟩
  | @acquire abandoned next hfailed hnext ihFailed ih =>
    rw [dialogueOf_run_acquire]
    simp only [Operation.endpointAt] at hat
    cases hreply : (S.acquire s).1.reply with
    | none =>
      rw [hreply] at hat
      cases hat
    | some reply =>
      rw [hreply] at hat
      cases reply with
      | ok =>
        cases hat
        have hseen := hnext.seen_of_equipped rfl _ hgone
        refine ⟨fun request hsent => ?_, hseen.imp_left (List.mem_cons_of_mem _)⟩
        have hcontact :
            .send request ∈
              conversationOf (dialogueOf ((next (.ok ())).run S (S.acquire s).2).steps) :=
          (mem_sentOf_iff _ _).mp hsent
        obtain ⟨-, sent, hsame, hsentExempt⟩ :=
          hnext.exempt_of_gone hlasts _ hgone (fun holds hassured => nomatch hassured) _ hcontact
        cases hsame
        exact hsentExempt
      | error text =>
        obtain ⟨hsent, hends⟩ := ihFailed text rfl _ hat
        exact ⟨hsent, hends.imp_left (List.mem_cons_of_mem _)⟩
  | send hnext ih => cases hstance
  | sendExempt hexempt hnext ih => cases hstance

end Gone

end Operation

/-! ## Callers who withdraw before the first look -/

section Early

variable {σ α : Type} {S : Surroundings σ} {s : σ}

/-- A procedure whose caller is gone from the start looks once, and ends as cancelled. -/
theorem Procedure.run_program_of_gone (procedure : Procedure α) (hgone : S.cancelled s = true) :
    dialogueOf (procedure.program.run S s).steps = [.checkpoint true] ∧
      ∃ result, (procedure.program.run S s).outcome = some result ∧ IsCancellation result := by
  obtain ⟨hquiet, houtcome⟩ := (procedure.ends_withdrawn .beforeEndpoint).run S s
  rw [program, looking, Operation.dialogueOf_run_checkpoint]
  simp only [Operation.run, Run.after_outcome, hgone]
  exact ⟨congrArg _ hquiet, houtcome⟩

/-- A task that passes its checks, and whose caller is gone when it first looks, ends as
cancelled. -/
theorem GatewayTask.cancelled_of_gone
    {task : GatewayTask} (hadmitted : ¬task.Refused (S.clock s).1)
    (hgone : S.cancelled (S.afterReading task.readsClock s) = true) :
    (task.perform.outcome.run S s).conversation = [] ∧
      ∃ error, (task.perform.outcome.run S s).outcome = some (.error error) ∧
        error.code = .cancelled := by
  obtain ⟨steps, hquiet, hrun⟩ := exists_run_perform hadmitted
  obtain ⟨hdialogue, result, houtcome, error, rfl, hcode⟩ :=
    task.procedure.run_program_of_gone hgone
  rw [hrun]
  refine ⟨?_, error, houtcome, hcode⟩
  rw [Run.conversation, ← conversationOf_dialogueOf, Run.after_steps, dialogueOf_append, hquiet,
    hdialogue]
  rfl

end Early

namespace GatewayTask

/-- What becomes of a task whose caller may withdraw at any moment of its run. -/
structure HeedsWithdrawal {σ : Type} (task : GatewayTask) (S : Surroundings σ) (s : σ) : Prop where
  /-- No endpoint is asked for after the withdrawal. -/
  acquires_present : ∀ reply, .acquire true reply ∉ (task.perform.outcome.run S s).steps
  /-- No envelope is handed over after the withdrawal, except the lookup of a creation. -/
  sends_present : ∀ request reply,
    .send request true reply ∈ (task.perform.outcome.run S s).steps → task.IsLookup request
  /-- A withdrawal before the task begins ends it as cancelled, unless its checks end it. -/
  cancelled_at_once : S.cancelled s = true → ¬task.Refused (S.clock s).1 →
    (task.perform.outcome.run S s).conversation = [] ∧
      ∃ error, (task.perform.outcome.run S s).outcome = some (.error error) ∧
        error.code = .cancelled
  /-- So does a withdrawal while a lock or a removal reads the clock, after it began and before it
  first looks for its caller. -/
  cancelled_at_reading : task.readsClock = true → S.cancelled (S.clock s).2 = true →
    ¬task.Refused (S.clock s).1 →
      (task.perform.outcome.run S s).conversation = [] ∧
        ∃ error, (task.perform.outcome.run S s).outcome = some (.error error) ∧
          error.code = .cancelled
  /-- After a withdrawal up to the moment in which the task gets its endpoint nothing is sent,
  except the lookup of a creation. -/
  silent_after_acquire : ∀ state, task.perform.outcome.endpointAt S s = some state →
    S.cancelled state = true →
      ∀ request ∈ (task.perform.outcome.run S s).sent, task.IsLookup request
  /-- Such a withdrawal ends every task but a creation as cancelled, with nothing sent. -/
  cancelled_after_acquire : ∀ state, task.perform.outcome.endpointAt S s = some state →
    S.cancelled state = true → (∀ creation, task ≠ .create creation) →
      (task.perform.outcome.run S s).sent = [] ∧
        ∃ error, (task.perform.outcome.run S s).outcome = some (.error error) ∧
          error.code = .cancelled

theorem inTime_of_mem_steps {σ : Type}
    (task : GatewayTask) (S : Surroundings σ) (s : σ) {step : Step}
    (hstep : step ∈ (task.perform.outcome.run S s).steps) : step.InTime task.IsLookup := by
  cases hcontact : step.isContact with
  | true =>
    have hdialogue : step ∈ dialogueOf (task.perform.outcome.run S s).steps :=
      List.mem_filter.mpr ⟨hstep, hcontact⟩
    exact task.guarded_perform.inTime s (fun holds hassured => nomatch hassured) step hdialogue
  | false =>
    cases step with
    | acquire cancelled reply => cases hcontact
    | send request cancelled reply => cases hcontact
    | _ => trivial

/-- Every task heeds the withdrawal of its caller, whatever its surroundings answer and whenever the
caller withdraws. Only the lookup of a creation is sent without a look for the caller. -/
theorem heedsWithdrawal {σ : Type}
    (task : GatewayTask) {S : Surroundings σ} (hlasts : S.WithdrawalLasts) (s : σ) :
    task.HeedsWithdrawal S s where
  acquires_present := by
    intro reply hstep
    have hintime := task.inTime_of_mem_steps S s hstep
    cases hintime
  sends_present := by
    intro request reply hstep
    have hintime := task.inTime_of_mem_steps S s hstep
    exact hintime.resolve_left (by simp)
  cancelled_at_once := by
    intro hgone hadmitted
    refine cancelled_of_gone hadmitted ?_
    cases task.readsClock with
    | true => exact hlasts.clock s hgone
    | false => exact hgone
  cancelled_at_reading := by
    intro hreads hgone hadmitted
    refine cancelled_of_gone hadmitted ?_
    rw [hreads]
    exact hgone
  silent_after_acquire := by
    intro state hat hgone request hsent
    rw [Run.sent_eq_sentOf, ← sentOf_dialogueOf] at hsent
    exact (task.guarded_perform.exempt_of_gone_at_endpoint rfl hlasts s hat hgone).1 request hsent
  cancelled_after_acquire := by
    intro state hat hgone hother
    obtain ⟨hsent, hseen⟩ :=
      task.guarded_perform.exempt_of_gone_at_endpoint rfl hlasts s hat hgone
    have hnever (request : EndpointRequest) : ¬task.IsLookup request := by
      rintro ⟨creation, hcreate, -⟩
      exact hother creation hcreate
    constructor
    · rw [Run.sent_eq_sentOf, ← sentOf_dialogueOf, List.eq_nil_iff_forall_not_mem]
      intro request hrequest
      exact hnever request (hsent request hrequest)
    · rcases hseen with hseen | ⟨request, -, hlookup⟩
      · obtain ⟨result, houtcome, error, rfl, hcode⟩ :=
          task.guarded_perform.cancelled_of_seen s hseen
        exact ⟨error, houtcome, hcode⟩
      · exact absurd hlookup (hnever request)

end GatewayTask

/-- Surroundings whose caller withdraws while the endpoint is acquired. The state says whether it
did. -/
def Surroundings.withdrawing (answer : EndpointRequest → EndpointResponse) : Surroundings Bool where
  cancelled gone := gone
  clock gone := (⟨0, 0⟩, gone)
  acquire _ := ({ reply := some (.ok ()) }, true)
  send request gone := ({ reply := some (.ok (answer request)) }, gone)

theorem Surroundings.withdrawalLasts_withdrawing (answer : EndpointRequest → EndpointResponse) :
    (Surroundings.withdrawing answer).WithdrawalLasts :=
  ⟨fun _ hgone => hgone, fun _ _ => rfl, fun _ _ hgone => hgone⟩

namespace GatewayTask

/-- A listing of sessions whose caller withdraws while the endpoint is acquired. -/
theorem heedsWithdrawal_sessions :
    let S := Surroundings.withdrawing fun _ => .sessions []
    let run := (sessions "c-1").perform.outcome.run S false
    S.WithdrawalLasts ∧ run.sent = [] ∧
      ∃ error, run.outcome = some (.error error) ∧ error.code = .cancelled := by
  intro S run
  have hlasts : S.WithdrawalLasts := Surroundings.withdrawalLasts_withdrawing _
  have hheeds := (sessions "c-1").heedsWithdrawal hlasts false
  have hat : (sessions "c-1").perform.outcome.endpointAt S false = some true := rfl
  exact ⟨hlasts, hheeds.cancelled_after_acquire true hat rfl fun _ hcreate => nomatch hcreate⟩

/-- A creation of an infobase that its cluster has already sends its lookup although its caller
withdrew while the endpoint was acquired, and it succeeds. -/
theorem lookup_sent_after_withdrawal :
    let S := Surroundings.withdrawing fun _ => .infobaseSummaries [⟨"ib-1", "accounting", ""⟩]
    let creation := create (.bare "c-1" "accounting")
    let run := creation.perform.outcome.run S false
    S.WithdrawalLasts ∧
      creation.perform.outcome.endpointAt S false = some true ∧
      S.cancelled true = true ∧
      .send (.getInfobasesShort "c-1") true
          (some (.ok (.infobaseSummaries [⟨"ib-1", "accounting", ""⟩]))) ∈ run.steps ∧
      ∃ result, run.outcome = some (.ok result) := by
  refine ⟨Surroundings.withdrawalLasts_withdrawing _, rfl, rfl, ?_, _, rfl⟩
  -- A note, a look and the acquisition come before the lookup.
  exact .tail _ (.tail _ (.tail _ (.head _)))

end GatewayTask

end InfobaseGateway
