/-!
# Error codes and call statuses

Every failure of the gateway carries an error code. A code has a number and a name, it says whether
the failure is worth an error record by default, and it becomes the status code of the call.
-/

namespace InfobaseGateway

/-- What kind of failure happened. -/
inductive ErrorCode
  | success
  | cancelled
  | invalidArgument
  | notFound
  | alreadyExists
  | permissionDenied
  | resourceExhausted
  | failedPrecondition
  | unimplemented
  | internal
  | unavailable
  | unauthenticated
  deriving DecidableEq

/-- The status code of a finished call. -/
inductive StatusCode
  | ok
  | cancelled
  | unknown
  | invalidArgument
  | deadlineExceeded
  | notFound
  | alreadyExists
  | permissionDenied
  | resourceExhausted
  | failedPrecondition
  | aborted
  | outOfRange
  | unimplemented
  | internal
  | unavailable
  | dataLoss
  | unauthenticated
  deriving DecidableEq

namespace StatusCode

/-- All status codes in the order of their numbers. -/
def all : List StatusCode :=
  [ok, cancelled, unknown, invalidArgument, deadlineExceeded, notFound, alreadyExists,
    permissionDenied, resourceExhausted, failedPrecondition, aborted, outOfRange, unimplemented,
    internal, unavailable, dataLoss, unauthenticated]

def number (code : StatusCode) : Nat :=
  all.idxOf code

/-- The status code of a number; a number out of range is `unknown`. -/
def ofNumber (number : Int) : StatusCode :=
  if number < 0 then unknown else all.getD number.toNat unknown

def name : StatusCode → String
  | ok => "Ok"
  | cancelled => "Cancelled"
  | unknown => "Unknown"
  | invalidArgument => "InvalidArgument"
  | deadlineExceeded => "DeadlineExceeded"
  | notFound => "NotFound"
  | alreadyExists => "AlreadyExists"
  | permissionDenied => "PermissionDenied"
  | resourceExhausted => "ResourceExhausted"
  | failedPrecondition => "FailedPrecondition"
  | aborted => "Aborted"
  | outOfRange => "OutOfRange"
  | unimplemented => "Unimplemented"
  | internal => "Internal"
  | unavailable => "Unavailable"
  | dataLoss => "DataLoss"
  | unauthenticated => "Unauthenticated"

end StatusCode

/-- How a failed call ends for its caller. -/
structure Status where
  code : StatusCode
  message : String
  deriving DecidableEq

namespace ErrorCode

/-- All error codes in the order of their numbers. -/
def all : List ErrorCode :=
  [success, cancelled, invalidArgument, notFound, alreadyExists, permissionDenied,
    resourceExhausted, failedPrecondition, unimplemented, internal, unavailable, unauthenticated]

/-- The status code that a caller sees for an error code. -/
def status : ErrorCode → StatusCode
  | success => .ok
  | cancelled => .cancelled
  | invalidArgument => .invalidArgument
  | notFound => .notFound
  | alreadyExists => .alreadyExists
  | permissionDenied => .permissionDenied
  | resourceExhausted => .resourceExhausted
  | failedPrecondition => .failedPrecondition
  | unimplemented => .unimplemented
  | internal => .internal
  | unavailable => .unavailable
  | unauthenticated => .unauthenticated

/-- The number of an error code, which is the number of its status. -/
def number (code : ErrorCode) : Nat :=
  code.status.number

/-- The name of an error code, which is also its text. -/
def name : ErrorCode → String
  | success => "Success"
  | code => code.status.name

/-- Whether a failure with this code is logged as an error unless the failure says otherwise: what
the caller did wrong, withdrew or asked for in vain is not. -/
def isSystemFault : ErrorCode → Bool
  | invalidArgument | cancelled | unimplemented => false
  | _ => true

end ErrorCode

end InfobaseGateway
