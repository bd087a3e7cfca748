import InfobaseGateway.Failure
import InfobaseGateway.Proofs.Classification

/-!
# Failures in boxes

A box shows its caller what the failure inside would show: the code, the text and so the status.
What it says about system faults follows from the code. That is what most failures say of
themselves, but a failure of the administration service is always a system fault, and it may be one
of a category of which the others are none.
-/

namespace InfobaseGateway

namespace Failure

variable {α : Type} [Failure α]

@[simp] theorem code_boxed (failure : α) : code (boxed failure) = code failure :=
  rfl

@[simp] theorem message_boxed (failure : α) : message (boxed failure) = message failure :=
  rfl

theorem status_boxed (failure : α) : status (boxed failure) = status failure :=
  rfl

/-- A box goes by the code of what is inside. -/
theorem isSystemFault_boxed (failure : α) :
    isSystemFault (boxed failure) = (code failure).isSystemFault :=
  rfl

end Failure

/-- The only category of endpoint texts that is no system fault by itself. -/
theorem isSystemFault_categoryOf_eq_false_iff (text : String) :
    (categoryOf text).isSystemFault = false ↔ categoryOf text = .invalidArgument := by
  have hcategories :
      ∀ code ∈ ErrorCode.categories, code.isSystemFault = false ↔ code = .invalidArgument := by
    decide
  exact hcategories _ (categoryOf_mem_categories text)

namespace GatewayError

open Failure

/-- A failure of the gateway that is not one of the service goes by its code, as its box does. -/
theorem isSystemFault_eq_of_not_endpoint
    {error : GatewayError} (hlocal : ∀ failure, error ≠ .endpoint failure) :
    error.isSystemFault = error.code.isSystemFault := by
  cases error with
  | endpoint failure => exact absurd rfl (hlocal failure)
  | validation _ | cancelled | cancelledBeforeSend | unsupportedDropMode _
  | unexpectedResponse _ _ _ | missingInfobaseId => rfl

/-- What a box shows of a failure of the gateway. -/
structure ShowsInBox (error : GatewayError) : Prop where
  code : Failure.code (boxed error) = error.code
  message : Failure.message (boxed error) = error.message
  status : Failure.status (boxed error) = error.status
  /-- The box agrees about system faults, except for failures of the service with a code that is
  none. -/
  isSystemFault_iff : Failure.isSystemFault (boxed error) = error.isSystemFault ↔
    ∀ failure, error = .endpoint failure → failure.code.isSystemFault = true
  /-- Of the texts of the service, it is those classified as invalid arguments that lose. -/
  isSystemFault_endpoint_iff : ∀ text, error = .endpoint (.ofText text) →
    (Failure.isSystemFault (boxed error) = error.isSystemFault ↔
      categoryOf text ≠ .invalidArgument)

theorem isSystemFault_boxed_eq_iff (error : GatewayError) :
    Failure.isSystemFault (boxed error) = error.isSystemFault ↔
      ∀ failure, error = .endpoint failure → failure.code.isSystemFault = true := by
  rw [isSystemFault_boxed]
  constructor
  · rintro hsame failure rfl
    exact hsame
  · intro hfault
    by_cases hendpoint : ∃ failure, error = .endpoint failure
    · obtain ⟨failure, rfl⟩ := hendpoint
      exact hfault failure rfl
    · exact (isSystemFault_eq_of_not_endpoint (not_exists.mp hendpoint)).symm

/-- A boxed failure of the gateway has the code, the text and the status of the failure itself. It
is a system fault alike, unless the service itself failed and its words make the failure the
caller's. -/
theorem showsInBox (error : GatewayError) : ShowsInBox error := by
  constructor
  · exact code_boxed error
  · exact message_boxed error
  · exact status_boxed error
  · exact isSystemFault_boxed_eq_iff error
  · rintro text rfl
    have hendpoint :
        (∀ failure, endpoint (.ofText text) = .endpoint failure →
          failure.code.isSystemFault = true) ↔ (categoryOf text).isSystemFault = true := by
      simp [EndpointError.code_ofText]
    rw [isSystemFault_boxed_eq_iff, hendpoint, ne_eq, ← isSystemFault_categoryOf_eq_false_iff,
      Bool.not_eq_false]

/-- Credentials that the service does not accept are a system fault outside of a box only. -/
theorem rejected_credentials_in_box :
    let error := endpoint (.ofText "invalid credentials for cluster admin")
    error.isSystemFault = true ∧ Failure.isSystemFault (boxed error) = false := by
  decide +kernel

end GatewayError

end InfobaseGateway
