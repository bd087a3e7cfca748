import InfobaseGateway.Endpoint
import InfobaseGateway.Log

/-!
# Operations as programs

An operation is a tree of the things it asks of its surroundings: whether its caller withdrew, what
time it is, an endpoint, an answer of the endpoint. Between these it leaves notes. Keeping
operations as data lets one definition serve every endpoint, every moment of cancellation and every
way in which calls overlap.
-/

namespace InfobaseGateway

/-- What an operation leaves behind on its way: log events, and the stages of the chain around a
handler as they are entered and left. -/
inductive Note
  | event (event : Event)
  | entered (stage : Nat)
  | handled
  | left (stage : Nat)
  deriving DecidableEq

/-- A program that ends with a result. While it waits for an endpoint or for an answer it can be
abandoned, and then leaves the events that are listed there. -/
inductive Operation (α : Type) : Type
  | done (result : α)
  | note (note : Note) (next : Operation α)
  | checkpoint (next : Bool → Operation α)
  | clock (next : Instant → Operation α)
  | acquire (abandoned : List Event) (next : Except String Unit → Operation α)
  | send (request : EndpointRequest) (abandoned : List Event)
      (next : Except String EndpointResponse → Operation α)

namespace Operation

variable {α β : Type}

/-- Runs one program and goes on with its result. -/
def bind : Operation α → (α → Operation β) → Operation β
  | done result, f => f result
  | note n next, f => note n (next.bind f)
  | checkpoint next, f => checkpoint fun cancelled => (next cancelled).bind f
  | clock next, f => clock fun now => (next now).bind f
  | acquire abandoned next, f => acquire abandoned fun reply => (next reply).bind f
  | send request abandoned next, f => send request abandoned fun reply => (next reply).bind f

instance : Monad Operation where
  pure := done
  bind := bind

/-- A program that also leaves the given events when it is abandoned. -/
def onAbandon (events : List Event) : Operation α → Operation α
  | done result => done result
  | note n next => note n (next.onAbandon events)
  | checkpoint next => checkpoint fun cancelled => (next cancelled).onAbandon events
  | clock next => clock fun now => (next now).onAbandon events
  | acquire abandoned next =>
    acquire (abandoned ++ events) fun reply => (next reply).onAbandon events
  | send request abandoned next =>
    send request (abandoned ++ events) fun reply => (next reply).onAbandon events

/-- Logs events, in order. -/
def log : List Event → Operation Unit
  | [] => done ()
  | event :: events => note (.event event) (log events)

def mark (n : Note) : Operation Unit :=
  note n (done ())

def now : Operation Instant :=
  clock done

end Operation

/-- A program that may fail. -/
abbrev Attempt (ε α : Type) : Type :=
  ExceptT ε Operation α

namespace Attempt

variable {ε α : Type}

/-- The program that ends with success or failure. -/
def outcome (attempt : Attempt ε α) : Operation (Except ε α) :=
  attempt.run

/-- A program that goes on with success or failure. -/
def ofOutcome (operation : Operation (Except ε α)) : Attempt ε α :=
  ExceptT.mk operation

/-- A check that needs nothing of its surroundings. -/
def ofExcept (result : Except ε α) : Attempt ε α :=
  ExceptT.mk (.done result)

def log (events : List Event) : Attempt ε Unit :=
  ExceptT.lift (Operation.log events)

end Attempt

end InfobaseGateway
