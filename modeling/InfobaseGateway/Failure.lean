import InfobaseGateway.GatewayError
import InfobaseGateway.Store.Seed

/-!
# Failures of every type

All failures have a code and a text for the caller, and they say whether they are system faults. A
failure is boxed to be handed on without its type. A box has the code and the text of what is in it,
but it does not ask it whether it is a system fault.
-/

namespace InfobaseGateway

universe u

/-- A type of failures. Where it says nothing else, the code decides what is a system fault. -/
class Failure (α : Type u) where
  code : α → ErrorCode
  message : α → String
  isSystemFault : α → Bool := fun failure => (code failure).isSystemFault

instance : Failure ValidationError where
  code := ValidationError.code
  message := ValidationError.message

instance : Failure EndpointError where
  code := EndpointError.code
  message := EndpointError.message

instance : Failure SeedError where
  code := SeedError.code
  message := SeedError.message

instance : Failure GatewayError where
  code := GatewayError.code
  message := GatewayError.message
  isSystemFault := GatewayError.isSystemFault

/-- A failure without its type. -/
structure BoxedFailure : Type 1 where
  Content : Type
  failure : Failure Content
  content : Content

instance : Failure BoxedFailure where
  code box := box.failure.code box.content
  message box := box.failure.message box.content

namespace Failure

variable {α : Type}

/-- A failure in a box. -/
def boxed [failure : Failure α] (content : α) : BoxedFailure :=
  ⟨α, failure, content⟩

/-- How a call ends for its caller that fails. -/
def status {β : Type u} [Failure β] (failure : β) : Status :=
  ⟨(code failure).status, message failure⟩

end Failure

end InfobaseGateway
