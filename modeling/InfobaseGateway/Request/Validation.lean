import InfobaseGateway.ErrorCode
import InfobaseGateway.Infobase.Record
import InfobaseGateway.Log
import InfobaseGateway.Text.Blank
import InfobaseGateway.Text.Expression
import InfobaseGateway.Text.Letters

/-!
# Validation of requests

Preconditions that hold before the administration service is contacted. Each check names the field
it is about; in a request the first check that fails decides the error.
-/

namespace InfobaseGateway

/-- Why a request is refused. -/
inductive ValidationError
  | missing (field : String)
  | missingFor (field : String) (dbms : DbmsKind)
  | nameTooLong (length : Nat)
  | nameAlphabet
  | windowIncomplete
  | windowReversed
  | windowPast
  deriving DecidableEq

/-- The most characters that a name may have. -/
def nameLimit : Nat :=
  64

namespace ValidationError

/-- The field that a refusal is about. -/
def field : ValidationError → String
  | missing field => field
  | missingFor field _ => field
  | nameTooLong _ => "name"
  | nameAlphabet => "name"
  | windowIncomplete => "denied_from"
  | windowReversed => "denied_to"
  | windowPast => "denied_to"

def message : ValidationError → String
  | missing field => field ++ " is required"
  | missingFor field dbms => field ++ " is required for " ++ dbms.name ++ " infobases"
  | nameTooLong length =>
    "name must not exceed " ++ toString nameLimit ++ " characters, got " ++ toString length
  | nameAlphabet => "name may only contain letters, digits, '_' and '-'"
  | windowIncomplete => "denied_from and denied_to must be set together"
  | windowReversed => "denied_to must be after denied_from"
  | windowPast => "denied_to must not be in the past"

/-- Every refusal is the caller's mistake. -/
def code (_ : ValidationError) : ErrorCode :=
  .invalidArgument

end ValidationError

/-- A text that must hold more than white space. -/
def requireText (field value : String) : Except ValidationError Unit :=
  if Text.isBlank value then .error (.missing field) else .ok ()

/-- Whether a character may stand in a name: letters and numbers of any script, `_` and `-`. -/
def isNameChar (c : Char) : Bool :=
  c = '_' || c = '-' || Text.letters.contains c || Text.numbers.contains c

/-- The pattern of names: one or more characters of the name alphabet between the two ends. -/
def namePattern : Text.Expression :=
  .andThen (.andThen .start (.repeated isNameChar)) .stop

/-- A name is not empty, has at most 64 characters and matches the pattern of names. -/
def checkName (name : String) : Except ValidationError Unit :=
  if name = "" then .error (.missing "name")
  else if nameLimit < name.length then .error (.nameTooLong name.length)
  else if namePattern.isMatch name then .ok ()
  else .error .nameAlphabet

/-- A new infobase needs a database system. -/
def requireDbms : Option DbmsKind → Except ValidationError DbmsKind
  | some dbms => .ok dbms
  | none => .error (.missing "dbms")

/-- Every database system is a server, so a new infobase needs a server and a database. -/
def checkServer (dbms : DbmsKind) (server database : String) : Except ValidationError Unit :=
  if Text.isBlank server then .error (.missingFor "db_server" dbms)
  else if Text.isBlank database then .error (.missingFor "db_name" dbms)
  else .ok ()

/-- A removal needs a mode. -/
def requireDropMode : Option DropMode → Except ValidationError DropMode
  | some mode => .ok mode
  | none => .error (.missing "drop_mode")

/-- The shortest lock window without a warning, in nanoseconds. -/
def shortWindow : Int :=
  60 * Instant.second

/-- The warning about a short lock window. -/
def shortWindowEvent (start stop : Instant) : Event :=
  ⟨.warn, "lock window is shorter than one minute",
    [("denied_from", start.text), ("denied_to", stop.text)]⟩

/-- A lock window has both ends or none, ends after it starts, and does not end before `now`. A
window of less than a minute is accepted with a warning. -/
def checkWindow (start stop : Option Instant) (now : Instant) :
    Except ValidationError (List Event) :=
  match start, stop with
  | none, none => .ok []
  | some start, some stop =>
    if !start.before stop then .error .windowReversed
    else if stop.before now then .error .windowPast
    else if stop.nanosSince start < shortWindow then .ok [shortWindowEvent start stop]
    else .ok []
  | _, _ => .error .windowIncomplete

end InfobaseGateway
