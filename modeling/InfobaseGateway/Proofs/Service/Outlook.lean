import InfobaseGateway.Proofs.Operation.Preparation
import InfobaseGateway.Proofs.Operation.Procedure
import InfobaseGateway.Proofs.Service.Course

/-!
# Prospects at the service

What the prospect of a program says about its evaluation at the service in memory. A program that
only ends does so and leaves the service alone, and so does a preparation, which comes to its
verdict. A program that comes to a request fails before it, or goes on with the answer of the
service; if its caller is steadfast, it does go on.
-/

namespace InfobaseGateway

/-- The reply of a service to a request, as programs see it. -/
def Service.reply (uuids : Nat → String) (request : EndpointRequest) (service : Service) :
    Except String EndpointResponse :=
  (service.answer uuids request).1.mapError Rejection.message

namespace Operation

variable {α : Type} {p : Operation α}

section Ends

variable {P : α → Prop}

theorem Ends.eval
    (h : p.Ends P) (uuids : Nat → String) (course : Course) (s : Situation) :
    P (p.eval uuids course s).1 ∧ (p.eval uuids course s).2.service = s.service := by
  induction h generalizing s with
  | done hresult => exact ⟨hresult, rfl⟩
  | note n hnext ih => exact ih s
  | clock hnext ih => exact ih (course.clock s.moment) (s.later 1)

/-- A program that only ends sends nothing. -/
theorem Ends.sent_run {σ : Type} (h : p.Ends P) (S : Surroundings σ) (s : σ) :
    (p.run S s).sent = [] := by
  induction h generalizing s with
  | done hresult => rfl
  | note n hnext ih => exact ih s
  | clock hnext ih => exact ih (S.clock s).1 (S.clock s).2

end Ends

section Prepares

variable {reads : Bool} {verdict : Instant → Except GatewayError Unit}
  {checks : Operation (Except GatewayError Unit)}

/-- A preparation comes to its verdict at the first reading of the clock. -/
theorem Prepares.eval
    (h : checks.Prepares reads verdict) (uuids : Nat → String) (course : Course) (s : Situation) :
    ∃ moments, checks.eval uuids course s =
      (verdict (course.clock s.moment), s.later moments) := by
  induction h generalizing s with
  | passed hpassed => exact ⟨0, congrArg (·, s) (hpassed _).symm⟩
  | refused hrefused => exact ⟨0, congrArg (·, s) (hrefused _).symm⟩
  | record hmild hnext ih => exact ih s
  | clock hnext ih =>
    obtain ⟨moments, heval⟩ := ih (course.clock s.moment) (s.later 1)
    rw [Operation.eval, heval, Situation.later_later]
    exact ⟨1 + moments, rfl⟩

/-- If the verdict is a failure, the program ends with it, and else the rest decides. -/
theorem Prepares.eval_followedBy
    (h : checks.Prepares reads verdict) (rest : Operation (Except GatewayError α))
    (uuids : Nat → String) (course : Course) (s : Situation) :
    ∃ moments, (checks.followedBy rest).eval uuids course s =
      match verdict (course.clock s.moment) with
      | .ok () => rest.eval uuids course (s.later moments)
      | .error error => (.error error, s.later moments) := by
  obtain ⟨moments, heval⟩ := h.eval uuids course s
  refine ⟨moments, ?_⟩
  rw [followedBy, eval_bind, heval]
  cases verdict (course.clock s.moment) with
  | _ => rfl

end Prepares

section Comes

variable {failure : α → Prop} {request : EndpointRequest}
  {onwards : Except String EndpointResponse → Operation α → Prop}

/-- A program that comes to a request fails before it, or goes on with the answer. -/
theorem Comes.eval
    (h : p.Comes failure request onwards) (uuids : Nat → String) (course : Course)
    (s : Situation) :
    failure (p.eval uuids course s).1 ∨
      ∃ rest moment, onwards (s.service.reply uuids request) rest ∧
        p.eval uuids course s =
          rest.eval uuids course ⟨(s.service.answer uuids request).2, moment⟩ := by
  induction h generalizing s with
  | note n hnext ih => exact ih s
  | clock hnext ih => exact ih (course.clock s.moment) (s.later 1)
  | @checkpoint next hwithdrawn hnext ih =>
    rw [Operation.eval]
    cases course.withdrawn s.moment with
    | true => exact .inl (hwithdrawn.eval uuids course s).1
    | false => exact ih s
  | acquire hfailed hnext ih => exact ih (s.later 1)
  | @send abandoned next hnext => exact .inr ⟨_, s.moment + 1, hnext _, rfl⟩

/-- With a steadfast caller the program comes to its request, and the request is the first that it
sends. -/
theorem Comes.steadfast
    (h : p.Comes failure request onwards) (uuids : Nat → String) (clock : Nat → Instant)
    (s : Situation) :
    ∃ rest moment, onwards (s.service.reply uuids request) rest ∧
      p.eval uuids (.steadfast clock) s =
        rest.eval uuids (.steadfast clock) ⟨(s.service.answer uuids request).2, moment⟩ ∧
      (p.run (Service.during uuids (.steadfast clock)) s).sent =
        request ::
          (rest.run (Service.during uuids (.steadfast clock))
            ⟨(s.service.answer uuids request).2, moment⟩).sent := by
  induction h generalizing s with
  | note n hnext ih => exact ih s
  | clock hnext ih => exact ih (clock s.moment) (s.later 1)
  | checkpoint hwithdrawn hnext ih => exact ih s
  | acquire hfailed hnext ih => exact ih (s.later 1)
  | @send abandoned next hnext =>
    refine ⟨_, s.moment + 1, hnext _, rfl, ?_⟩
    simp only [run, Service.during, Service.surroundings, Service.reply]
    cases s.service.answer uuids request with
    | mk answer service =>
      cases answer with
      | ok response => rfl
      | error rejection => rfl

end Comes

end Operation

/-- The last steps of an operation leave the service alone. -/
theorem Closing.eval_program {α : Type}
    (closing : Closing α) (uuids : Nat → String) (course : Course) (s : Situation) :
    ∃ after, closing.program.eval uuids course s = (closing.result, after) ∧
      after.service = s.service := by
  obtain ⟨hresult, hsame⟩ := closing.ends.eval uuids course s
  exact ⟨(closing.program.eval uuids course s).2, Prod.ext hresult rfl, hsame⟩

end InfobaseGateway
