import InfobaseGateway.Proofs.Chain.Standard
import InfobaseGateway.Proofs.Message.Sanitized
import InfobaseGateway.Proofs.Rpc.Plan
import InfobaseGateway.Proofs.Secrecy.Task

/-!
# Calls keep passwords to themselves

The stages around a handler see a message as a record whose fields have roles. The copy that they
log has every password masked, and what they read off a message for the audit is none of its
passwords. So two calls that are the same but for their passwords leave the same log, and a whole
sequence of calls does.
-/

namespace InfobaseGateway

/-! ## What the stages see -/

namespace Rpc

/-- The roles of the fields mask exactly the passwords. -/
theorem sanitize_toRecord (rpc : Rpc) (message : rpc.Request) :
    (Message.schema rpc.Request).sanitize (Message.toRecord message) =
      Message.toRecord (rpc.mapPasswords maskText message) := by
  cases rpc with
  | _ => rfl

theorem sanitize_toRecord_blotted (rpc : Rpc) (message : rpc.Request) :
    (Message.schema rpc.Request).sanitize (Message.toRecord (rpc.blotted message)) =
      (Message.schema rpc.Request).sanitize (Message.toRecord message) := by
  have hmask : maskText ∘ blot = maskText := funext maskText_blot
  rw [sanitize_toRecord, sanitize_toRecord, blotted, mapPasswords_mapPasswords, hmask]

theorem receivedEvent_blotted (rpc : Rpc) (message : rpc.Request) :
    receivedEvent (rpc.call (rpc.blotted message)) = receivedEvent (rpc.call message) := by
  simp only [receivedEvent, call, MessageView.ofMessage, sanitize_toRecord_blotted]

/-- The audit reads no password. -/
theorem auditEvent_blotted (rpc : Rpc) (message : rpc.Request) :
    auditEvent (rpc.call (rpc.blotted message)) = auditEvent (rpc.call message) := by
  have hmetadata :
      (rpc.call (rpc.blotted message)).metadata = (rpc.call message).metadata := by
    show (Message.schema rpc.Request).metadata (Message.toRecord (rpc.blotted message)) =
      (Message.schema rpc.Request).metadata (Message.toRecord message)
    rw [← Schema.metadata_sanitize, sanitize_toRecord_blotted, Schema.metadata_sanitize]
  funext passage millis
  unfold auditEvent
  rw [hmetadata]
  rfl

end Rpc

/-- The standard stages see the same of two calls whose events are the same. -/
theorem Chain.alike_serve_standardStages
    {checking : Prop} {α : Type} {call call' : Call}
    (hreceived : receivedEvent call = receivedEvent call')
    (haudit : auditEvent call = auditEvent call')
    {handler handler' : Operation (Except Status α)} (h : handler.Alike checking handler') :
    (serve standardStages call handler).Alike checking (serve standardStages call' handler') := by
  rw [serve_standardStages, serve_standardStages, hreceived, haudit]
  refine .note _ (.clock fun _ => .note _ (.note _ (.clock fun start => .note _ ?_)))
  refine h.bind (fun result => .clock fun stop => .note _ (.note _ (.clock fun _ => ?_))) ?_ ?_
  · exact .note _ (.done result)
  · exact ⟨fun value _ _ => ⟨value, rfl⟩, fun error _ _ => not_succeeds_error error⟩
  · exact ⟨fun value _ _ => ⟨value, rfl⟩, fun error _ _ => not_succeeds_error error⟩

/-! ## What the handlers do -/

namespace CreateInfobase

theorem ofMessage_blotted (message : CreateInfobaseRequest) :
    ofMessage (Rpc.createInfobase.blotted message) = (ofMessage message).map blotted := by
  simp only [ofMessage, Rpc.blotted, Rpc.mapPasswords]
  cases DbmsKind.ofNumber "dbms" message.dbms with
  | error error => rfl
  | ok dbms =>
    cases securityLevelOf "security_level" message.securityLevel with
    | error error => rfl
    | ok level => rfl

end CreateInfobase

namespace UpdateInfobase

theorem ofMessage_blotted (message : UpdateInfobaseRequest) :
    ofMessage (Rpc.updateInfobase.blotted message) = (ofMessage message).map blotted := by
  simp only [ofMessage, Rpc.blotted, Rpc.mapPasswords]
  cases DbmsKind.ofOptionalNumber "dbms" message.dbms with
  | error error => rfl
  | ok dbms =>
    cases securityLevelOf "security_level" message.securityLevel with
    | error error => rfl
    | ok level =>
      cases instantOf "denied_from" message.deniedFrom with
      | error error => rfl
      | ok start =>
        cases instantOf "denied_to" message.deniedTo with
        | error error => rfl
        | ok stop => rfl

end UpdateInfobase

namespace DropInfobase

theorem ofMessage_blotted (message : DropInfobaseRequest) :
    ofMessage (Rpc.dropInfobase.blotted message) = (ofMessage message).map blotted := by
  simp only [ofMessage, Rpc.blotted, Rpc.mapPasswords]
  cases DropMode.ofNumber "drop_mode" message.dropMode with
  | error error => rfl
  | ok mode => rfl

end DropInfobase

namespace LockInfobase

theorem ofMessage_blotted (message : LockInfobaseRequest) :
    ofMessage (Rpc.lockInfobase.blotted message) = (ofMessage message).map blotted := by
  simp only [ofMessage, Rpc.blotted, Rpc.mapPasswords]
  cases instantOf "denied_from" message.deniedFrom with
  | error error => rfl
  | ok start =>
    cases instantOf "denied_to" message.deniedTo with
    | error error => rfl
    | ok stop => rfl

end LockInfobase

namespace Rpc

/-- The methods that check credentials. -/
def authenticating : List Rpc :=
  [authenticateAgent, authenticateCluster, authenticateInfobase]

/-- The answer of a method hands the outcome of its operation on. -/
theorem alike_answer
    {checking : Prop} {β γ : Type} {operation operation' : GatewayAttempt β} (answer : β → γ)
    (hoperation : operation.Alike checking operation') :
    (operation.outcome.bind fun result =>
        .done ((result.mapError GatewayError.status).map answer)).Alike checking
      (operation'.outcome.bind fun result =>
        .done ((result.mapError GatewayError.status).map answer)) := by
  have hfaithful :
      Faithful fun result : Except GatewayError β =>
        .done ((result.mapError GatewayError.status).map answer) :=
    ⟨fun value => ⟨answer value, rfl⟩, fun error => not_succeeds_error error.status⟩
  exact hoperation.bind (fun _ => .done _) hfaithful hfaithful

/-- A method that converts its message, performs an operation and answers. -/
theorem alike_convert_perform
    {checking : Prop} {α β γ : Type} {converted : Except ConversionError α} {blotted : α → α}
    {operation : α → GatewayAttempt β} (answer : β → γ)
    (hoperation : ∀ request, (operation request).Alike checking (operation (blotted request))) :
    (do
        let request ← convert converted
        let result ← perform (operation request)
        return answer result : CallAttempt γ).outcome.Alike checking
      (do
        let request ← convert (converted.map blotted)
        let result ← perform (operation request)
        return answer result : CallAttempt γ).outcome := by
  rw [outcome_convert_perform, outcome_convert_perform]
  cases converted with
  | error error => exact .done _
  | ok request => exact alike_answer answer (hoperation request)

theorem alike_perform
    {checking : Prop} {β γ : Type} {operation operation' : GatewayAttempt β} (answer : β → γ)
    (hoperation : operation.Alike checking operation') :
    (do
        let result ← perform operation
        return answer result : CallAttempt γ).outcome.Alike checking
      (do
        let result ← perform operation'
        return answer result : CallAttempt γ).outcome := by
  rw [outcome_perform, outcome_perform]
  exact alike_answer answer hoperation

theorem alike_handle (rpc : Rpc) (message : rpc.Request) :
    (rpc.handle message).outcome.Alike (rpc ∈ authenticating)
      (rpc.handle (rpc.blotted message)).outcome := by
  cases rpc with
  | createInfobase =>
    rw [handle, handle, CreateInfobase.ofMessage_blotted]
    exact alike_convert_perform _ fun request => request.alike_perform
  | updateInfobase =>
    rw [handle, handle, UpdateInfobase.ofMessage_blotted]
    exact alike_convert_perform _ fun request => request.alike_perform
  | dropInfobase =>
    rw [handle, handle, DropInfobase.ofMessage_blotted]
    exact alike_convert_perform _ fun request => request.alike_perform
  | lockInfobase =>
    rw [handle, handle, LockInfobase.ofMessage_blotted]
    exact alike_convert_perform _ fun request => request.alike_perform
  | unlockInfobase => exact alike_perform _ (UnlockInfobase.ofMessage message).alike_perform
  | terminateSession => exact alike_perform _ (TerminateSession.ofMessage message).alike_perform
  | authenticateAgent =>
    have hchecking : authenticateAgent ∈ authenticating := by decide
    exact alike_perform _ ((Authenticate.ofAgentMessage message).alike_perform hchecking)
  | authenticateCluster =>
    have hchecking : authenticateCluster ∈ authenticating := by decide
    exact alike_perform _ ((Authenticate.ofClusterMessage message).alike_perform hchecking)
  | authenticateInfobase =>
    have hchecking : authenticateInfobase ∈ authenticating := by decide
    exact alike_perform _ ((Authenticate.ofInfobaseMessage message).alike_perform hchecking)
  | getClusters =>
    have hkind : EndpointRequest.getClusters.expects ≠ .infobase := by decide
    exact alike_perform _ (Query.alike_ask hkind id none)
  | getClusterInfo =>
    have hkind : (EndpointRequest.getClusterInfo message.clusterId).expects ≠ .infobase := by
      simp [EndpointRequest.expects]
    exact alike_perform _ (Query.alike_ensure_ask _ hkind id _)
  | getSessions =>
    have hkind : (EndpointRequest.getSessions message.clusterId).expects ≠ .infobase := by
      simp [EndpointRequest.expects]
    exact alike_perform _ (Query.alike_ensure_ask _ hkind id _)
  | getShortInfobases =>
    have hkind : (EndpointRequest.getInfobasesShort message.clusterId).expects ≠ .infobase := by
      simp [EndpointRequest.expects]
    exact alike_perform _ (Query.alike_ensure_ask _ hkind id _)
  | getInfobaseSessions =>
    have hkind :
        (EndpointRequest.getInfobaseSessions message.clusterId message.infobaseId).expects ≠
          .infobase := by
      simp [EndpointRequest.expects]
    exact alike_perform _ (Query.alike_ensure_ask _ hkind id _)

/-- A call is alike to itself with its passwords blotted out. -/
theorem alike_serve (rpc : Rpc) (message : rpc.Request) :
    (rpc.serve message).Alike (rpc ∈ authenticating) (rpc.serve (rpc.blotted message)) :=
  Chain.alike_serve_standardStages (rpc.receivedEvent_blotted message).symm
    (rpc.auditEvent_blotted message).symm (rpc.alike_handle message)

theorem alike_serve_of_blotted_eq
    (rpc : Rpc) {message message' : rpc.Request}
    (hsame : rpc.blotted message = rpc.blotted message') :
    (rpc.serve message).Alike (rpc ∈ authenticating) (rpc.serve message') := by
  have hfirst := rpc.alike_serve message
  rw [hsame] at hfirst
  exact hfirst.trans (rpc.alike_serve message').symm

end Rpc

end InfobaseGateway
