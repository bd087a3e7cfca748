import InfobaseGateway.Proofs.Operation.Prospect

/-!
# Before the first contact

An operation checks its request and announces itself in the log before it contacts anyone. For one
of its checks it may read the clock, once. So the time of the first reading decides whether the
operation goes on, and whoever runs it afterwards finds its surroundings as they were, or as that
reading left them.
-/

namespace InfobaseGateway

/-! ## Records that report no failure -/

/-- The messages of the records that the stages around a handler leave about a single request. -/
def stageMessages : List String :=
  ["received gRPC request", "gRPC operation failed", "gRPC destructive operation",
    "gRPC operation completed"]

namespace Event

/-- A record that a stage leaves. -/
def isOfStage (event : Event) : Bool :=
  event.message ∈ stageMessages

/-- A record of an operation that is not at error level. -/
structure Mild (event : Event) : Prop where
  operation : event.isOfStage = false
  level : event.level ≠ .error

theorem mild_of_info
    {event : Event} (hoperation : event.isOfStage = false) (hlevel : event.level = .info) :
    event.Mild :=
  ⟨hoperation, hlevel ▸ by decide⟩

end Event

/-- The state in which a program goes on that read the clock, or did not. -/
def Surroundings.afterReading {σ : Type} (S : Surroundings σ) : Bool → σ → σ
  | true, s => (S.clock s).2
  | false, s => s

/-- Checks, and what follows them if they pass. -/
def Operation.followedBy {α : Type} (checks : Operation (Except GatewayError Unit))
    (rest : Operation (Except GatewayError α)) : Operation (Except GatewayError α) :=
  checks.bind fun
    | .ok () => rest
    | .error error => .done (.error error)

theorem Attempt.outcome_bind_ofOutcome {α : Type}
    (checks : GatewayAttempt Unit) (rest : Operation (Except GatewayError α)) :
    (do checks; .ofOutcome rest : GatewayAttempt α).outcome = checks.outcome.followedBy rest := by
  rw [outcome_bind, Operation.followedBy]
  congr 1
  funext outcome
  cases outcome with
  | _ => rfl

namespace Operation

variable {α : Type}

/-- A program that leaves records and comes to a verdict on the time that it reads first. It may
stop before it reads the clock; if it passes, it did read it, provided that it `reads`. -/
inductive Prepares : (reads : Bool) → (verdict : Instant → Except GatewayError Unit) →
    Operation (Except GatewayError Unit) → Prop
  | passed {verdict : Instant → Except GatewayError Unit} (hpassed : ∀ now, verdict now = .ok ()) :
      Prepares false verdict (.done (.ok ()))
  | refused {reads : Bool} {verdict : Instant → Except GatewayError Unit} {error : GatewayError}
      (hrefused : ∀ now, verdict now = .error error) :
      Prepares reads verdict (.done (.error error))
  | record {reads : Bool} {verdict : Instant → Except GatewayError Unit} {event : Event}
      {next : Operation (Except GatewayError Unit)} (hmild : event.Mild)
      (hnext : Prepares reads verdict next) : Prepares reads verdict (.note (.event event) next)
  | clock {verdict : Instant → Except GatewayError Unit}
      {next : Instant → Operation (Except GatewayError Unit)}
      (hnext : ∀ now, Prepares false (fun _ => verdict now) (next now)) :
      Prepares true verdict (.clock next)

/-! ## Preparations, step by step -/

section Rules

variable {β : Type} {reads : Bool} {verdict : Instant → Except GatewayError Unit}

theorem prepares_ensure_bind
    {check : Except ValidationError β} {f : β → GatewayAttempt Unit}
    (hfail : ∀ error, check = .error error → ∀ now, verdict now = .error (.validation error))
    (hrest : ∀ b, check = .ok b → (f b).outcome.Prepares reads verdict) :
    (ensure check >>= f).outcome.Prepares reads verdict := by
  rw [outcome_ensure_bind]
  cases hcheck : check with
  | ok b => exact hrest b hcheck
  | error error => exact .refused (hfail error hcheck)

theorem prepares_log_bind
    {events : List Event} (hevents : ∀ event ∈ events, event.Mild) {f : Unit → GatewayAttempt Unit}
    (hrest : (f ()).outcome.Prepares reads verdict) :
    (Attempt.log events >>= f).outcome.Prepares reads verdict := by
  rw [Attempt.outcome_log_bind]
  induction events with
  | nil => exact hrest
  | cons event events ih =>
    obtain ⟨hevent, hothers⟩ := List.forall_mem_cons.mp hevents
    exact .record hevent (ih hothers)

theorem prepares_record_bind
    {event : Event} (hevent : event.Mild) {f : Unit → GatewayAttempt Unit}
    (hrest : (f ()).outcome.Prepares reads verdict) :
    (Attempt.log [event] >>= f).outcome.Prepares reads verdict :=
  prepares_log_bind (List.forall_mem_singleton.mpr hevent) hrest

theorem prepares_now_bind
    {f : Instant → GatewayAttempt Unit}
    (hrest : ∀ now, (f now).outcome.Prepares false fun _ => verdict now) :
    (liftM Operation.now >>= f : GatewayAttempt Unit).outcome.Prepares true verdict := by
  rw [outcome_now_bind]
  exact .clock hrest

end Rules

/-! ## What follows preparations -/

namespace Prepares

variable {reads : Bool} {verdict : Instant → Except GatewayError Unit}
  {p : Operation (Except GatewayError Unit)} {rest : Operation (Except GatewayError α)}

/-- A property of the rest holds of the whole program if it passes over mild records and over
readings of the clock at certain times, and holds of the failures at these times. -/
theorem followedBy_induct
    {Q : Operation (Except GatewayError α) → Prop} (h : p.Prepares reads verdict)
    (times : Instant → Prop) (htimes : ∃ now, times now)
    (hrecord : ∀ {event next}, event.Mild → Q next → Q (.note (.event event) next))
    (hclock : ∀ {next}, (∀ now, times now → Q (next now)) → Q (.clock next))
    (hrefused : ∀ now error, times now → verdict now = .error error → Q (.done (.error error)))
    (hrest : Q rest) : Q (p.followedBy rest) := by
  induction h with
  | passed hpassed => exact hrest
  | refused hnever =>
    obtain ⟨now, hnow⟩ := htimes
    exact hrefused now _ hnow (hnever now)
  | record hmild hnext ih => exact hrecord hmild (ih hrefused)
  | clock hnext ih =>
    exact hclock fun now hnow => ih now fun _ error _ hverdict => hrefused now error hnow hverdict

theorem followedBy_quiet
    {Q : Operation (Except GatewayError α) → Prop} (h : p.Prepares reads verdict) (hQ : Quiet Q)
    (hrefused : ∀ now error, verdict now = .error error → Q (.done (.error error)))
    (hrest : Q rest) : Q (p.followedBy rest) :=
  h.followedBy_induct (fun _ => True) ⟨⟨0, 0⟩, trivial⟩ (fun _ => hQ.note _)
    (fun hnext => hQ.clock fun now => hnext now trivial) (fun now error _ => hrefused now error)
    hrest

/-! ### Runs -/

section Runs

variable {σ : Type} {S : Surroundings σ} {s : σ}

theorem run (h : p.Prepares reads verdict) (S : Surroundings σ) (s : σ) :
    dialogueOf (p.run S s).steps = [] ∧
      (p.run S s).outcome = some (verdict (S.clock s).1) ∧
      (verdict (S.clock s).1 = .ok () → (p.run S s).final = S.afterReading reads s) := by
  induction h generalizing s with
  | passed hpassed => exact ⟨rfl, congrArg some (hpassed _).symm, fun _ => rfl⟩
  | refused hrefused =>
    refine ⟨rfl, congrArg some (hrefused _).symm, fun hok => ?_⟩
    cases (hrefused _).symm.trans hok
  | record hmild hnext ih => exact ih s
  | clock hnext ih => exact ih (S.clock s).1 (S.clock s).2

/-- After checks that pass, the rest runs as if nothing had happened but the reading of the
clock. -/
theorem exists_run_followedBy
    (h : p.Prepares reads verdict) (hok : verdict (S.clock s).1 = .ok ())
    (rest : Operation (Except GatewayError α)) :
    ∃ steps, dialogueOf steps = [] ∧
      (p.followedBy rest).run S s = (rest.run S (S.afterReading reads s)).after steps := by
  obtain ⟨hdialogue, houtcome, hfinal⟩ := h.run S s
  refine ⟨(p.run S s).steps, hdialogue, ?_⟩
  rw [followedBy, run_bind, Run.andThen, houtcome, hok, hfinal hok]

theorem run_followedBy_of_error
    {error : GatewayError} (h : p.Prepares reads verdict)
    (herror : verdict (S.clock s).1 = .error error) (rest : Operation (Except GatewayError α)) :
    dialogueOf ((p.followedBy rest).run S s).steps = [] ∧
      ((p.followedBy rest).run S s).outcome = some (.error error) := by
  obtain ⟨hdialogue, houtcome, -⟩ := h.run S s
  rw [followedBy, run_bind, Run.andThen, houtcome, herror]
  refine ⟨?_, rfl⟩
  rw [Run.after_steps, Operation.run, List.append_nil, hdialogue]

end Runs

end Prepares

end Operation

end InfobaseGateway
