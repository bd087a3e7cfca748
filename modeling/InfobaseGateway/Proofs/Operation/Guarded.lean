import InfobaseGateway.Proofs.Operation.Performance

/-!
# Looking for the caller in time

A caller can withdraw at any moment, and an operation learns of it only where it looks. So it looks
right before it asks for an endpoint and right before it sends an envelope, and ends as cancelled if
it finds its caller gone. A creation sends its lookup without a look of its own: the look before its
endpoint is the last one before it.

Whether a program looks in time is decided along its tree, without any surroundings.
-/

namespace InfobaseGateway

/-- An operation that ends because its caller withdrew. -/
def IsCancellation {α : Type} (result : Except GatewayError α) : Prop :=
  ∃ error, result = .error error ∧ error.code = .cancelled

/-- Where a program stands between two contacts. It may hold its endpoint or not. -/
inductive Stance
  | resting (holds : Bool)
  /-- It found its caller present, and nothing happened since. -/
  | assured (holds : Bool)
  /-- It got its endpoint, and nothing happened since. -/
  | equipped
  deriving DecidableEq

def Stance.holds : Stance → Bool
  | resting holds | assured holds => holds
  | equipped => true

namespace Operation

variable {α : Type}

/-- A program that contacts its surroundings only right after it found its caller present, and looks
for its caller right after it got its endpoint. Requests with the property `exempt` may be sent
there without a look. -/
inductive Guarded (exempt : EndpointRequest → Prop) :
    Stance → Operation (Except GatewayError α) → Prop
  | done (holds : Bool) (result : Except GatewayError α) :
      Guarded exempt (.resting holds) (.done result)
  | note {stance : Stance} (n : Note) {next : Operation (Except GatewayError α)}
      (hnext : Guarded exempt stance next) : Guarded exempt stance (.note n next)
  | clock {holds : Bool} {next : Instant → Operation (Except GatewayError α)}
      (hnext : ∀ now, Guarded exempt (.resting holds) (next now)) :
      Guarded exempt (.resting holds) (.clock next)
  | checkpoint {stance : Stance} {next : Bool → Operation (Except GatewayError α)}
      (hwithdrawn : (next true).Ends IsCancellation)
      (hnext : Guarded exempt (.assured stance.holds) (next false)) :
      Guarded exempt stance (.checkpoint next)
  | acquire {abandoned : List Event}
      {next : Except String Unit → Operation (Except GatewayError α)}
      (hfailed : ∀ text, Guarded exempt (.resting false) (next (.error text)))
      (hnext : Guarded exempt .equipped (next (.ok ()))) :
      Guarded exempt (.assured false) (.acquire abandoned next)
  | send {request : EndpointRequest} {abandoned : List Event}
      {next : Except String EndpointResponse → Operation (Except GatewayError α)}
      (hnext : ∀ reply, Guarded exempt (.resting true) (next reply)) :
      Guarded exempt (.assured true) (.send request abandoned next)
  | sendExempt {request : EndpointRequest} {abandoned : List Event}
      {next : Except String EndpointResponse → Operation (Except GatewayError α)}
      (hexempt : exempt request) (hnext : ∀ reply, Guarded exempt (.resting true) (next reply)) :
      Guarded exempt .equipped (.send request abandoned next)

theorem quiet_guarded (exempt : EndpointRequest → Prop) (holds : Bool) :
    Quiet (Guarded exempt (.resting holds) : Operation (Except GatewayError α) → Prop) :=
  ⟨.note, .clock⟩

end Operation

/-! ## Every procedure looks in time -/

section Procedure

variable {α : Type} {exempt : EndpointRequest → Prop}

theorem Closing.guarded (closing : Closing α) (exempt : EndpointRequest → Prop) (holds : Bool) :
    closing.program.Guarded exempt (.resting holds) :=
  closing.ends.of_quiet (Operation.quiet_guarded exempt holds) fun result _ => .done holds result

namespace Procedure

variable (procedure : Procedure α)

theorem ends_withdrawn (look : Look) :
    (procedure.setback (.withdrawn look)).program.Ends IsCancellation := by
  refine (procedure.setback (.withdrawn look)).ends.mono ?_
  rintro result rfl
  exact ⟨look.error, rfl, look.code_error⟩

theorem guarded_asking {stance : Stance} (hholds : stance.holds = true) :
    procedure.asking.Guarded exempt stance := by
  refine .checkpoint (procedure.ends_withdrawn _) ?_
  rw [hholds]
  exact .send fun reply => (procedure.closing reply).guarded exempt true

/-- A procedure looks in time for everything but its search. -/
theorem guarded_program
    (hexempt : ∀ search, procedure.search? = some search → exempt search.envelope) :
    procedure.program.Guarded exempt (.resting false) := by
  refine .checkpoint (procedure.ends_withdrawn _) (.acquire (fun text => ?_) ?_)
  · exact Closing.guarded _ exempt false
  dsimp only
  rw [searching]
  cases hsearch : procedure.search? with
  | none => exact procedure.guarded_asking rfl
  | some search =>
    refine .sendExempt (hexempt search hsearch) fun reply => ?_
    rw [Search.onwards]
    cases search.closing? reply with
    | none => exact procedure.guarded_asking rfl
    | some closing => exact closing.guarded exempt true

end Procedure

end Procedure

/-! ## Every task looks in time -/

namespace GatewayTask

/-- The request that a task sends without a look for its caller: the lookup of a creation. -/
def IsLookup (task : GatewayTask) (request : EndpointRequest) : Prop :=
  ∃ creation, task = .create creation ∧ request = .getInfobasesShort creation.clusterId

theorem isLookup_of_search
    {task : GatewayTask} {search : Search task.Result}
    (hsearch : task.procedure.search? = some search) : task.IsLookup search.envelope := by
  cases task with
  | create request =>
    cases hsearch
    exact ⟨request, rfl, rfl⟩
  | _ => cases hsearch

theorem guarded_perform (task : GatewayTask) :
    task.perform.outcome.Guarded task.IsLookup (.resting false) := by
  rw [outcome_perform]
  refine task.prepares.followedBy_quiet (Operation.quiet_guarded _ false) ?_ ?_
  · exact fun now error _ => .done false _
  · exact task.procedure.guarded_program fun search hsearch => isLookup_of_search hsearch

end GatewayTask

end InfobaseGateway
