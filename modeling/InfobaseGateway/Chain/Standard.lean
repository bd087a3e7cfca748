import InfobaseGateway.Chain.Basic

/-!
# The standard stages

The sanitizing stage logs a copy of each request without its credentials. The audit stage writes
one record for each finished call: an error if the call failed, a warning if it removed something,
and an information otherwise.
-/

namespace InfobaseGateway

/-- The methods whose success is recorded as a warning. -/
def destructiveMethods : List String :=
  ["/infobase.service.InfobaseManagementService/DropInfobase"]

/-- The fields that tell the directions of a stream. -/
def streamFields (fromClient fromServer : Bool) : EventFields :=
  [("is_client_stream", Text.showFlag fromClient), ("is_server_stream", Text.showFlag fromServer)]

/-- The record of a call that comes in. -/
def receivedEvent (call : Call) : Event :=
  let method := [("method", call.method)]
  match call.kind with
  | .unary (some message) =>
    let view := message.schema.view (message.schema.sanitize message.record)
    ⟨.debug, "received gRPC request", method ++ [("request", view)]⟩
  | .unary none => ⟨.debug, "received gRPC request", method⟩
  | .stream fromClient fromServer =>
    ⟨.debug, "received gRPC stream", method ++ streamFields fromClient fromServer⟩

/-- Logs a sanitized copy of each request. -/
def sanitizeStage : Stage where
  name := "sanitize"
  kind := .security
  entering call := [receivedEvent call]
  shortcut _ := none
  leaving _ _ _ := []
  result _ passage := passage

/-- Who and what a call is about. -/
def Call.metadata (call : Call) : AuditMetadata :=
  match call.kind with
  | .unary (some message) => message.schema.metadata message.record
  | _ => ⟨none, none, none⟩

def resultName : Passage → String
  | .ok () => "success"
  | .error _ => "error"

/-- The fields of an audit record that only failed calls have. -/
def failureFields : Passage → EventFields
  | .ok () => []
  | .error status => [("error", status.message), ("grpc_code", status.code.name)]

/-- The audit record of a finished call. -/
def auditEvent (call : Call) (passage : Passage) (millis : Nat) : Event :=
  let outcome :=
    [("operation", call.method), ("duration_ms", toString millis),
      ("result", resultName passage)]
  match call.kind with
  | .stream fromClient fromServer =>
    let level := match passage with
      | .ok () => Level.info
      | .error _ => Level.error
    ⟨level, "gRPC stream completed",
      outcome ++ streamFields fromClient fromServer ++ failureFields passage⟩
  | .unary _ =>
    let metadata := call.metadata
    let fields :=
      outcome ++ optionalField "cluster_id" metadata.clusterId
        ++ optionalField "infobase_id" metadata.infobaseId ++ optionalField "user" metadata.user
        ++ failureFields passage
    match passage with
    | .error _ => ⟨.error, "gRPC operation failed", fields⟩
    | .ok () =>
      if call.method ∈ destructiveMethods then ⟨.warn, "gRPC destructive operation", fields⟩
      else ⟨.info, "gRPC operation completed", fields⟩

/-- Writes one record for each finished call. -/
def auditStage : Stage where
  name := "audit"
  kind := .observability
  entering _ := []
  shortcut _ := none
  leaving call passage millis := [auditEvent call passage millis]
  result _ passage := passage

/-- The stages around every handler of the gateway. -/
def standardStages : List Stage :=
  [sanitizeStage, auditStage]

end InfobaseGateway
