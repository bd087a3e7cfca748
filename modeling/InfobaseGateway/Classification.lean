import InfobaseGateway.ErrorCode
import InfobaseGateway.Text.Lowercase

/-!
# Classification of endpoint errors

The administration service reports failures as free text. An ordered list of rules recognises the
text by the phrases in its lower-case form; the first rule that matches gives the error code and
the message for the caller, and a text that no rule knows is an internal error. The text itself is
kept as detail.
-/

namespace InfobaseGateway

/-- A rule of the classification: any of the phrases in a text gives it the code, and callers read
the message instead of the text. -/
structure ClassificationRule where
  code : ErrorCode
  phrases : List String
  message : String

/-- The rules in order of priority. -/
def classificationRules : List ClassificationRule :=
  [⟨.notFound, ["not found", "does not exist"], "resource not found"⟩,
    ⟨.permissionDenied, ["access denied", "permission denied", "unauthorized"], "access denied"⟩,
    ⟨.alreadyExists, ["already exists", "duplicate"], "resource already exists"⟩,
    ⟨.invalidArgument, ["invalid", "bad request", "malformed"], "invalid request parameters"⟩,
    ⟨.unauthenticated, ["authentication failed", "invalid credentials", "bad password"],
      "authentication failed"⟩,
    ⟨.unavailable, ["connection refused", "timeout", "unavailable", "connection failed"],
      "RAS service unavailable"⟩,
    ⟨.resourceExhausted, ["quota exceeded", "too many", "limit exceeded"],
      "resource limit exceeded"⟩,
    ⟨.failedPrecondition, ["locked", "in use", "busy"], "resource is locked or busy"⟩]

/-- Whether one of the phrases of the rule occurs in a lower-case text. -/
def ClassificationRule.matchesText (rule : ClassificationRule) (text : List Char) : Bool :=
  rule.phrases.any fun phrase => Text.occursIn phrase.toList text

/-- The first rule that matches an endpoint text, whatever its case. -/
def matchingRule? (text : String) : Option ClassificationRule :=
  classificationRules.find? fun rule => rule.matchesText (Text.lowercase text)

/-- The error code of an endpoint text. -/
def categoryOf (text : String) : ErrorCode :=
  match matchingRule? text with
  | some rule => rule.code
  | none => .internal

/-- An endpoint failure after classification. -/
structure EndpointError where
  code : ErrorCode
  message : String
  detail : String
  deriving DecidableEq

/-- Classifies the text of an endpoint failure. -/
def EndpointError.ofText (text : String) : EndpointError :=
  match matchingRule? text with
  | some rule => ⟨rule.code, rule.message, text⟩
  | none => ⟨.internal, "RAS error: " ++ text, text⟩

/-- Classifies the text of a failure if there is one. -/
def classifyOutcome : Option String → Except EndpointError Unit
  | none => .ok ()
  | some text => .error (.ofText text)

end InfobaseGateway
