import InfobaseGateway.GatewayError
import InfobaseGateway.Operation.Program

/-!
# Steps shared by all operations

Every operation that talks to the administration service checks for cancellation, acquires an
endpoint, checks again and sends. Failures of the service are classified here.
-/

namespace InfobaseGateway

/-- A gateway operation in progress. -/
abbrev GatewayAttempt (α : Type) : Type :=
  Attempt GatewayError α

/-- Checks a precondition. -/
def ensure {α : Type} (check : Except ValidationError α) : GatewayAttempt α :=
  .ofExcept (check.mapError .validation)

namespace Dispatch

/-- Fails with the given error if the caller has withdrawn. -/
def checkpoint (error : GatewayError) : GatewayAttempt Unit :=
  .ofOutcome <| .checkpoint fun cancelled =>
    .done (if cancelled then .error error else .ok ())

/-- The record of an endpoint that could not be had. -/
def acquireFailure (operation : String) (error : EndpointError) : Event :=
  ⟨.error, "failed to get RAS endpoint",
    [("operation", operation), ("error", error.detail), ("code", error.code.name)]⟩

/-- Acquires an endpoint for the named operation. -/
def acquire (operation : String) : GatewayAttempt Unit :=
  .ofOutcome <| .acquire [] fun
    | .ok () => .done (.ok ())
    | .error text =>
      let error := EndpointError.ofText text
      .note (.event (acquireFailure operation error)) (.done (.error (.endpoint error)))

/-- What a reply of the service means for a request that asked for one kind of response. -/
def receive (request : EndpointRequest) :
    Except String EndpointResponse → Except GatewayError request.expects.Content
  | .ok response =>
    match response.content? request.expects with
    | some content => .ok content
    | none => .error (.unexpectedResponse request.name request.expects response.kind)
  | .error text => .error (.endpoint (.ofText text))

/-- Sends a request and receives the kind of response that it asks for. A failure leaves the events
that the caller wants for it. -/
def send (request : EndpointRequest) (failureEvents : GatewayError → List Event) :
    GatewayAttempt request.expects.Content :=
  .ofOutcome <| .send request [] fun reply =>
    match receive request reply with
    | .ok content => .done (.ok content)
    | .error error => do
      Operation.log (failureEvents error)
      return .error error

/-- The one round trip of the named operation, with a check for cancellation before each of its two
waits. -/
def exchange (operation : String) (request : EndpointRequest)
    (failureEvents : GatewayError → List Event) : GatewayAttempt request.expects.Content := do
  checkpoint .cancelled
  acquire operation
  checkpoint .cancelledBeforeSend
  send request failureEvents

end Dispatch

def GatewayError.fields (error : GatewayError) : EventFields :=
  [("error", error.logDetail), ("code", error.code.name)]

end InfobaseGateway
