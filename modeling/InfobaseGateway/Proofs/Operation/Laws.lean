import InfobaseGateway.Operation.Dispatch
import InfobaseGateway.Operation.Run

/-!
# Laws of operations

Operations form a lawful monad, and the steps that all operations share have one equation each: it
says what the step asks of its surroundings and how the rest of the program follows. With these
equations the whole tree of an operation can be read off its definition.

The second part of the file is about runs. A run of two programs in sequence is the run of the
first one, followed by the run of the second one from the state that the first one left behind.
-/

namespace InfobaseGateway

/-! ## The monad of operations -/

namespace Operation

variable {α β γ : Type}

@[simp]
theorem pure_eq_done (result : α) :
    (pure result : Operation α) = done result :=
  rfl

@[simp]
theorem bind_eq_bind (p : Operation α) (f : α → Operation β) :
    p >>= f = p.bind f :=
  rfl

@[simp]
theorem bind_done (p : Operation α) : p.bind done = p := by
  induction p with
  | done result => rfl
  | note n next ih => simp [bind, ih]
  | checkpoint next ih => simp [bind, ih]
  | clock next ih => simp [bind, ih]
  | acquire abandoned next ih => simp [bind, ih]
  | send request abandoned next ih => simp [bind, ih]

theorem bind_bind
    (p : Operation α) (f : α → Operation β) (g : β → Operation γ) :
    (p.bind f).bind g = p.bind fun a => (f a).bind g := by
  induction p with
  | done result => rfl
  | note n next ih => simp [bind, ih]
  | checkpoint next ih => simp [bind, ih]
  | clock next ih => simp [bind, ih]
  | acquire abandoned next ih => simp [bind, ih]
  | send request abandoned next ih => simp [bind, ih]

instance : LawfulMonad Operation :=
  LawfulMonad.mk' _ (fun p => p.bind_done) (fun _ _ => rfl) bind_bind

end Operation

/-! ## Programs that may fail -/

namespace Attempt

variable {ε α β : Type}

/-- A failure ends the program; a success is handed on. -/
theorem outcome_bind (x : Attempt ε α) (f : α → Attempt ε β) :
    (x >>= f).outcome =
      x.outcome.bind fun
        | .ok a => (f a).outcome
        | .error error => .done (.error error) :=
  rfl

theorem outcome_lift_bind (p : Operation α) (f : α → Attempt ε β) :
    (liftM p >>= f : Attempt ε β).outcome = p.bind fun a => (f a).outcome := by
  have hlift :
      (liftM p : Attempt ε α).outcome = p.bind fun a => .done (.ok a) := rfl
  rw [outcome_bind, hlift, Operation.bind_bind]
  rfl

theorem outcome_log_bind (events : List Event) (f : Unit → Attempt ε α) :
    (log events >>= f).outcome =
      (Operation.log events).bind fun _ => (f ()).outcome :=
  outcome_lift_bind (Operation.log events) f

end Attempt

/-! ## The steps shared by all operations -/

section Steps

variable {α β : Type}

theorem outcome_ensure_bind
    (check : Except ValidationError α) (f : α → GatewayAttempt β) :
    (ensure check >>= f).outcome =
      match check with
      | .ok a => (f a).outcome
      | .error error => .done (.error (.validation error)) := by
  cases check with
  | ok a => rfl
  | error error => rfl

theorem outcome_now_bind (f : Instant → GatewayAttempt β) :
    (liftM Operation.now >>= f : GatewayAttempt β).outcome =
      .clock fun now => (f now).outcome :=
  Attempt.outcome_lift_bind Operation.now f

namespace Dispatch

theorem outcome_checkpoint_bind
    (error : GatewayError) (f : Unit → GatewayAttempt β) :
    (checkpoint error >>= f).outcome =
      .checkpoint fun cancelled =>
        if cancelled then .done (.error error) else (f ()).outcome := by
  rw [Attempt.outcome_bind]
  show Operation.checkpoint _ = Operation.checkpoint _
  congr 1
  funext cancelled
  cases cancelled with
  | true => rfl
  | false => rfl

theorem outcome_acquire_bind
    (operation : String) (f : Unit → GatewayAttempt β) :
    (acquire operation >>= f).outcome =
      .acquire [] fun
        | .ok () => (f ()).outcome
        | .error text =>
          .note (.event (acquireFailure operation (.ofText text)))
            (.done (.error (.endpoint (.ofText text)))) := by
  rw [Attempt.outcome_bind]
  show Operation.acquire _ _ = Operation.acquire _ _
  congr 1
  funext reply
  cases reply with
  | ok => rfl
  | error text => rfl

theorem outcome_send
    (request : EndpointRequest) (failureEvents : GatewayError → List Event) :
    (send request failureEvents).outcome =
      .send request [] fun reply =>
        match receive request reply with
        | .ok content => .done (.ok content)
        | .error error =>
          (Operation.log (failureEvents error)).bind fun _ => .done (.error error) :=
  rfl

theorem outcome_send_bind
    (request : EndpointRequest) (failureEvents : GatewayError → List Event)
    (f : request.expects.Content → GatewayAttempt β) :
    (send request failureEvents >>= f).outcome =
      .send request [] fun reply =>
        match receive request reply with
        | .ok content => (f content).outcome
        | .error error =>
          (Operation.log (failureEvents error)).bind fun _ => .done (.error error) := by
  rw [Attempt.outcome_bind, outcome_send]
  simp only [Operation.bind]
  congr 1
  funext reply
  cases receive request reply with
  | ok content => simp only [Operation.bind]
  | error error => simp only [Operation.bind_bind, Operation.bind]

/-- The one round trip, step by step. -/
theorem exchange_bind
    (operation : String) (request : EndpointRequest)
    (failureEvents : GatewayError → List Event)
    (f : request.expects.Content → GatewayAttempt β) :
    (exchange operation request failureEvents >>= f) =
      (do
        checkpoint .cancelled
        acquire operation
        checkpoint .cancelledBeforeSend
        let content ← send request failureEvents
        f content) := by
  simp only [exchange, bind_assoc]

end Dispatch

end Steps

/-! ## Runs in sequence -/

namespace Run

variable {σ α β : Type}

@[simp]
theorem after_steps (run : Run σ α) (steps : List Step) :
    (run.after steps).steps = steps ++ run.steps :=
  rfl

@[simp]
theorem after_outcome (run : Run σ α) (steps : List Step) :
    (run.after steps).outcome = run.outcome :=
  rfl

/-- Goes on with the result of a run, unless the run was abandoned. -/
def andThen (run : Run σ α) (next : α → σ → Run σ β) : Run σ β :=
  match run.outcome with
  | some result => (next result run.final).after run.steps
  | none => ⟨run.steps, none, run.final⟩

theorem after_andThen
    (run : Run σ α) (steps : List Step) (next : α → σ → Run σ β) :
    (run.after steps).andThen next = (run.andThen next).after steps := by
  obtain ⟨taken, outcome, final⟩ := run
  cases outcome with
  | none => rfl
  | some result => simp [andThen, after]

end Run

namespace Operation

variable {σ α β : Type}

/-- Two programs in sequence run one after the other. -/
theorem run_bind
    (S : Surroundings σ) (p : Operation α) (f : α → Operation β) (s : σ) :
    (p.bind f).run S s =
      (p.run S s).andThen fun result state => (f result).run S state := by
  induction p generalizing s with
  | done result => rfl
  | note n next ih =>
    simp only [bind, run, ih, Run.after_andThen]
  | checkpoint next ih =>
    simp only [bind, run, ih, Run.after_andThen]
  | clock next ih =>
    simp only [bind, run, ih, Run.after_andThen]
  | acquire abandoned next ih =>
    simp only [bind, run]
    cases (S.acquire s).1.reply with
    | none => rfl
    | some reply => simp only [ih, Run.after_andThen]
  | send request abandoned next ih =>
    simp only [bind, run]
    cases (S.send request s).1.reply with
    | none => rfl
    | some reply => simp only [ih, Run.after_andThen]

/-- A program that is answered ends as its rest does; without an answer it does not end. -/
theorem outcome_run_acquire
    (S : Surroundings σ) (s : σ) (abandoned : List Event)
    (next : Except String Unit → Operation α) :
    ((acquire abandoned next).run S s).outcome =
      match (S.acquire s).1.reply with
      | some reply => ((next reply).run S (S.acquire s).2).outcome
      | none => none := by
  simp only [run]
  cases (S.acquire s).1.reply with
  | none => rfl
  | some reply => rfl

theorem outcome_run_send
    (S : Surroundings σ) (s : σ) (request : EndpointRequest) (abandoned : List Event)
    (next : Except String EndpointResponse → Operation α) :
    ((send request abandoned next).run S s).outcome =
      match (S.send request s).1.reply with
      | some reply => ((next reply).run S (S.send request s).2).outcome
      | none => none := by
  simp only [run]
  cases (S.send request s).1.reply with
  | none => rfl
  | some reply => rfl

end Operation

end InfobaseGateway
