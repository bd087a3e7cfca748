import InfobaseGateway.Operation.Creation
import InfobaseGateway.Proofs.Operation.Laws

/-!
# The steps of a creation

The lookup of a creation turns one failure into an answer, and the answer to its second request is
checked for a uuid. Both have equations like the shared steps.
-/

namespace InfobaseGateway.CreateInfobase

variable {β : Type}

/-- The infobase of a listing that has the requested name. -/
def existing? (request : CreateInfobase) (infobases : List InfobaseShort) :
    Option InfobaseShort :=
  infobases.find? fun infobase => infobase.name = request.name

theorem existing?_eq_none_iff (request : CreateInfobase) (infobases : List InfobaseShort) :
    request.existing? infobases = none ↔
      ∀ infobase ∈ infobases, infobase.name ≠ request.name := by
  simp [existing?]

theorem outcome_lookup_bind
    (request : CreateInfobase) (f : Option InfobaseShort → GatewayAttempt β) :
    (request.lookup >>= f).outcome =
      .send (.getInfobasesShort request.clusterId) [] fun reply =>
        match Dispatch.receive (.getInfobasesShort request.clusterId) reply with
        | .ok infobases => (f (request.existing? infobases)).outcome
        | .error error =>
          (Operation.log (request.lookupFailure error)).bind fun _ =>
            if error.code = .notFound then (f none).outcome else .done (.error error) := by
  rw [Attempt.outcome_bind]
  show Operation.send _ _ _ = Operation.send _ _ _
  congr 1
  funext reply
  cases hreceive : Dispatch.receive (.getInfobasesShort request.clusterId) reply with
  | ok infobases => simp only [hreceive, Operation.bind, Operation.pure_eq_done, existing?]
  | error error =>
    simp only [hreceive, Operation.bind_eq_bind, Operation.bind_bind, Operation.bind,
      Operation.pure_eq_done]
    by_cases hcode : error.code = .notFound
    · simp only [if_pos hcode]
    · simp only [if_neg hcode]

/-- What a creation that finds its infobase tells its caller. -/
def foundOutcome (existing : InfobaseShort) : LifecycleOutcome :=
  ⟨existing.uuid, some existing.name, "Infobase already exists (idempotent operation)", true⟩

/-- What a creation that made its infobase tells its caller. -/
def createdOutcome (request : CreateInfobase) (infobaseId : String) : LifecycleOutcome :=
  ⟨infobaseId, some request.name, "Infobase created successfully", true⟩

/-- How a creation ends with the record that the service sent back. -/
def ending (request : CreateInfobase) (record : InfobaseInfo) :
    Except GatewayError LifecycleOutcome :=
  match record.uuid with
  | none => .error .missingInfobaseId
  | some infobaseId =>
    if infobaseId = "" then .error .missingInfobaseId
    else .ok (request.createdOutcome infobaseId)

/-- A record ends a creation well exactly if it has an id. -/
theorem ending_cases (request : CreateInfobase) (record : InfobaseInfo) :
    (∃ infobaseId, record.uuid = some infobaseId ∧ infobaseId ≠ "" ∧
        request.ending record = .ok (request.createdOutcome infobaseId)) ∨
      request.ending record = .error .missingInfobaseId := by
  rw [ending]
  cases record.uuid with
  | none => exact .inr rfl
  | some infobaseId =>
    by_cases hempty : infobaseId = ""
    · exact .inr (if_pos hempty)
    · exact .inl ⟨infobaseId, rfl, hempty, if_neg hempty⟩

/-- A creation with nothing but what it needs. -/
def bare (clusterId name : String) : CreateInfobase where
  clusterId := clusterId
  name := name
  dbms := some .postgreSql
  dbServer := "pg01"
  dbName := "acc"
  dbUser := none
  dbPassword := none
  locale := none
  dateOffset := none
  description := none
  securityLevel := none
  scheduledJobsDeny := none
  licenseDistributionAllow := none
  credentials := ⟨none, none⟩

end InfobaseGateway.CreateInfobase
