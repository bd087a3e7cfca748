import InfobaseGateway.Classification
import InfobaseGateway.Endpoint
import InfobaseGateway.Request.Validation

/-!
# Failures of gateway operations

An operation fails because its request is refused, because its caller withdrew, or because of the
administration service. The failure gives the status of the call, and it says whether it is a system
fault, which belongs in the log at error level. Every failure of the service is one, whatever its
category.
-/

namespace InfobaseGateway

/-- Why an operation failed. -/
inductive GatewayError
  | validation (error : ValidationError)
  | cancelled
  | cancelledBeforeSend
  | unsupportedDropMode (mode : DropMode)
  | endpoint (error : EndpointError)
  | unexpectedResponse (request : String) (expected actual : ResponseKind)
  | missingInfobaseId
  deriving DecidableEq

namespace GatewayError

def code : GatewayError → ErrorCode
  | validation error => error.code
  | cancelled => .cancelled
  | cancelledBeforeSend => .cancelled
  | unsupportedDropMode _ => .unimplemented
  | endpoint error => error.code
  | unexpectedResponse _ _ _ => .internal
  | missingInfobaseId => .internal

/-- The text of a failure, as the caller reads it. -/
def message : GatewayError → String
  | validation error => error.message
  | cancelled => "operation cancelled"
  | cancelledBeforeSend => "operation cancelled before RAS request"
  | unsupportedDropMode mode =>
    "drop_mode " ++ mode.name ++ " is not supported by RAS Binary Protocol. Only " ++
      "DROP_MODE_UNREGISTER_ONLY is available. To drop database files, use external database " ++
      "management tools after unregistering the infobase."
  | endpoint error => error.message
  | unexpectedResponse request expected actual =>
    "unexpected " ++ actual.name ++ " response to " ++ request ++ ", expected " ++ expected.name
  | missingInfobaseId => "RAS did not return the id of the created infobase"

/-- The text of a failure for the log: the service's own words if the failure is its. -/
def logDetail : GatewayError → String
  | endpoint error => error.detail
  | error => error.message

/-- Whether a failure is logged at error level. -/
def isSystemFault : GatewayError → Bool
  | endpoint _ => true
  | error => error.code.isSystemFault

def status (error : GatewayError) : Status :=
  ⟨error.code.status, error.message⟩

end GatewayError

end InfobaseGateway
