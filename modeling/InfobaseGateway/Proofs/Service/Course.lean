import InfobaseGateway.Proofs.Operation.Laws
import InfobaseGateway.Store.Service

/-!
# A service in the course of time

The service in memory serves its calls while time goes on and callers withdraw. A course gives both
for every moment: the reading of the clock, and whether the caller of the call that is being served
has withdrawn by then. A moment passes with every reading of the clock and with every wait, so a
course can place a withdrawal between any two steps of an operation that could tell the difference.

The service answers at once, so an operation is never abandoned. Its runs therefore compute a
result, and `Operation.eval` is that computation.
-/

namespace InfobaseGateway

/-- The readings of the clock and the withdrawals of callers, for every moment. -/
structure Course where
  clock : Nat → Instant
  withdrawn : Nat → Bool

/-- A service at a moment. -/
structure Situation where
  service : Service
  moment : Nat

namespace Situation

def later (s : Situation) (moments : Nat) : Situation :=
  { s with moment := s.moment + moments }

@[simp]
theorem later_service (s : Situation) (moments : Nat) :
    (s.later moments).service = s.service :=
  rfl

theorem later_later (s : Situation) (first second : Nat) :
    (s.later first).later second = s.later (first + second) := by
  simp [later, Nat.add_assoc]

end Situation

/-- The course of a caller who never withdraws while the clock stands still. -/
def Course.still (now : Instant) : Course where
  clock _ := now
  withdrawn _ := false

/-- The course of a caller who never withdraws. -/
def Course.steadfast (clock : Nat → Instant) : Course where
  clock := clock
  withdrawn _ := false

namespace Service

/-- The service in memory as the surroundings of operations in the course of time. -/
def during (uuids : Nat → String) (course : Course) : Surroundings Situation where
  cancelled s := course.withdrawn s.moment
  clock s := (course.clock s.moment, s.later 1)
  acquire s := ({ reply := some (.ok ()) }, s.later 1)
  send request s :=
    let answered := (surroundings uuids (course.clock s.moment)).send request s.service
    (answered.1, ⟨answered.2, s.moment + 1⟩)

/-- With the clock standing still and no withdrawal, the moments do not matter. -/
theorem run_during_still {α : Type}
    (uuids : Nat → String) (now : Instant) (p : Operation α) (s : Situation) :
    (p.run (during uuids (Course.still now)) s).steps =
        (p.run (surroundings uuids now) s.service).steps ∧
      (p.run (during uuids (Course.still now)) s).outcome =
        (p.run (surroundings uuids now) s.service).outcome ∧
      (p.run (during uuids (Course.still now)) s).final.service =
        (p.run (surroundings uuids now) s.service).final := by
  induction p generalizing s with
  | done result => exact ⟨rfl, rfl, rfl⟩
  | note n next ih =>
    obtain ⟨hsteps, houtcome, hfinal⟩ := ih s
    exact ⟨congrArg (_ :: ·) hsteps, houtcome, hfinal⟩
  | checkpoint next ih =>
    obtain ⟨hsteps, houtcome, hfinal⟩ := ih false s
    exact ⟨congrArg (_ :: ·) hsteps, houtcome, hfinal⟩
  | clock next ih =>
    obtain ⟨hsteps, houtcome, hfinal⟩ := ih now (s.later 1)
    exact ⟨congrArg (_ :: ·) hsteps, houtcome, hfinal⟩
  | acquire abandoned next ih =>
    obtain ⟨hsteps, houtcome, hfinal⟩ := ih (.ok ()) (s.later 1)
    exact ⟨congrArg (_ :: ·) hsteps, houtcome, hfinal⟩
  | send request abandoned next ih =>
    simp only [Operation.run, during, surroundings]
    cases hanswer : s.service.answer uuids request with
    | mk reply service =>
      cases reply with
      | ok response =>
        obtain ⟨hsteps, houtcome, hfinal⟩ := ih (.ok response) ⟨service, s.moment + 1⟩
        exact ⟨congrArg (_ :: ·) hsteps, houtcome, hfinal⟩
      | error rejection =>
        obtain ⟨hsteps, houtcome, hfinal⟩ :=
          ih (.error rejection.message) ⟨service, s.moment + 1⟩
        exact ⟨congrArg (_ :: _ :: ·) hsteps, houtcome, hfinal⟩

end Service

namespace Operation

variable {α β : Type} (uuids : Nat → String) (course : Course)

/-- The result of a program that a service in memory serves, and the situation after it. -/
def eval : Operation α → Situation → α × Situation
  | done result, s => (result, s)
  | note _ next, s => next.eval s
  | checkpoint next, s => (next (course.withdrawn s.moment)).eval s
  | clock next, s => (next (course.clock s.moment)).eval (s.later 1)
  | acquire _ next, s => (next (.ok ())).eval (s.later 1)
  | send request _ next, s =>
    let answered := s.service.answer uuids request
    (next (answered.1.mapError Rejection.message)).eval ⟨answered.2, s.moment + 1⟩

/-- A run around the service in memory is never abandoned and ends as computed. -/
theorem run_during (p : Operation α) (s : Situation) :
    (p.run (Service.during uuids course) s).outcome = some (p.eval uuids course s).1 ∧
      (p.run (Service.during uuids course) s).final = (p.eval uuids course s).2 := by
  induction p generalizing s with
  | done result => exact ⟨rfl, rfl⟩
  | note n next ih => exact ih s
  | checkpoint next ih => exact ih (course.withdrawn s.moment) s
  | clock next ih => exact ih (course.clock s.moment) (s.later 1)
  | acquire abandoned next ih => exact ih (.ok ()) (s.later 1)
  | send request abandoned next ih =>
    simp only [run, eval, Service.during, Service.surroundings]
    cases hanswer : s.service.answer uuids request with
    | mk reply service =>
      cases reply with
      | ok response => exact ih (.ok response) ⟨service, s.moment + 1⟩
      | error rejection => exact ih (.error rejection.message) ⟨service, s.moment + 1⟩

theorem eval_bind (p : Operation α) (f : α → Operation β) (s : Situation) :
    (p.bind f).eval uuids course s =
      (f (p.eval uuids course s).1).eval uuids course (p.eval uuids course s).2 := by
  induction p generalizing s with
  | done result => rfl
  | note n next ih => exact ih s
  | checkpoint next ih => exact ih _ s
  | clock next ih => exact ih _ (s.later 1)
  | acquire abandoned next ih => exact ih _ (s.later 1)
  | send request abandoned next ih => exact ih _ _

end Operation

/-- The result of a program that may fail, and the situation after it. -/
def Attempt.evalAt {ε α : Type} (uuids : Nat → String) (course : Course) (s : Situation)
    (x : Attempt ε α) : Except ε α × Situation :=
  x.outcome.eval uuids course s

end InfobaseGateway
