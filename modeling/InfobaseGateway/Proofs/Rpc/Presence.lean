import InfobaseGateway.Proofs.Operation.Conversation
import InfobaseGateway.Proofs.Request.Convertible
import InfobaseGateway.Proofs.Rpc.Dialogue
import InfobaseGateway.Proofs.Rpc.Effect

/-!
# What an update keeps of its message

An attribute can be absent from a message, or present with a value that is false, zero or empty, and
the two mean different things. An update keeps them apart all the way: from the message to the
request, from the request to the one envelope that it sends, and from the envelope to the record in
the store, where an absent attribute keeps its value.
-/

namespace InfobaseGateway

/-! ## What a message gives -/

/-- The database systems by their numbers in messages, with their names in the administration
protocol. -/
def dbmsNames : List (Int32 × String) :=
  [(1, "MSSQLServer"), (2, "PostgreSQL"), (3, "IBMDB2"), (4, "OracleDatabase")]

/-- The value of an attribute, or its absence, is the one that the message gives. Database systems
go by their names; the levels are counted from 0, and an unspecified level is level 0; a licence is
0 where it is allowed and 1 where it is denied; and no message gives a name. -/
def UpdateInfobaseRequest.Gives (message : UpdateInfobaseRequest) :
    (key : AttributeName) → Option key.Value → Prop
  | .name, value => value = none
  | .dbms, value =>
    value.map (fun kind => some kind.name) = message.dbms.map fun number => dbmsNames.lookup number
  | .dbServer, value => value = message.dbServer
  | .dbName, value => value = message.dbName
  | .dbUser, value => value = message.dbUser
  | .dbPassword, value => value = message.dbPassword
  | .locale, value => value = message.locale
  | .dateOffset, value => value = message.dateOffset
  | .description, value => value = message.description
  | .securityLevel, value =>
    value.map UInt32.toNat = message.securityLevel.map fun number => number.toInt.toNat - 1
  | .sessionsDeny, value => value = message.sessionsDeny
  | .scheduledJobsDeny, value => value = message.scheduledJobsDeny
  | .deniedFrom, value => value.map Instant.parts = message.deniedFrom.map Timestamp.parts
  | .deniedTo, value => value.map Instant.parts = message.deniedTo.map Timestamp.parts
  | .deniedMessage, value => value = message.deniedMessage
  | .permissionCode, value => value = message.permissionCode
  | .licenseDistribution, value =>
    value = message.licenseDistributionAllow.map fun allow => if allow then 0 else 1

/-! ## What a conversion keeps -/

theorem dbmsName_of_ofOptionalNumber
    {field : String} {number : Option Int32} {kind : Option DbmsKind}
    (h : DbmsKind.ofOptionalNumber field number = .ok kind) :
    kind.map (fun kind => some kind.name) = number.map fun number => dbmsNames.lookup number := by
  cases number with
  | none =>
    cases h
    rfl
  | some n =>
    have hknown := (exists_dbms_ofOptionalNumber_eq_ok_iff field (some n)).mp ⟨kind, h⟩
    obtain ⟨hmem, hzero⟩ := hknown n rfl
    simp only [dbmsNumbers, List.mem_cons, List.not_mem_nil, or_false] at hmem
    rcases hmem with rfl | rfl | rfl | rfl | rfl
    · exact absurd rfl hzero
    all_goals
      cases h
      rfl

theorem level_of_securityLevelOf
    {field : String} {number : Option Int32} {level : Option UInt32}
    (h : securityLevelOf field number = .ok level) :
    level.map UInt32.toNat = number.map fun number => number.toInt.toNat - 1 := by
  cases number with
  | none =>
    cases h
    rfl
  | some n =>
    have hknown := (exists_securityLevelOf_eq_ok_iff field (some n)).mp ⟨level, h⟩ n rfl
    simp only [securityLevelNumbers, List.mem_cons, List.not_mem_nil, or_false] at hknown
    rcases hknown with rfl | rfl | rfl | rfl | rfl
    all_goals
      cases h
      rfl

theorem parts_of_instantOf
    {field : String} {time : Option Timestamp} {instant : Option Instant}
    (h : instantOf field time = .ok instant) :
    instant.map Instant.parts = time.map Timestamp.parts := by
  cases time with
  | none =>
    cases h
    rfl
  | some t =>
    simp only [instantOf, Instant.ofParts?] at h
    split at h
    · next instant hparts =>
      cases h
      split at hparts
      · next hrange =>
        cases hparts
        have hnanos : ((t.nanos.toInt.toNat : Nat) : Int) = t.nanos.toInt :=
          Int.toNat_of_nonneg hrange.2.2.1
        exact congrArg (fun nanos => some (t.seconds.toInt, nanos)) hnanos
      · cases hparts
    · cases h

/-- A request that a message converts to sends what the message gives. -/
theorem gives_of_ofMessage
    {message : UpdateInfobaseRequest} {request : UpdateInfobase}
    (hconverts : UpdateInfobase.ofMessage message = .ok request) :
    request.clusterId = message.clusterId ∧ request.infobaseId = message.infobaseId ∧
      ∀ key, message.Gives key (request.info.toAttributes.get? key) := by
  simp only [UpdateInfobase.ofMessage, except_bind_eq_ok_iff] at hconverts
  obtain ⟨dbms, hdbms, level, hlevel, start, hstart, stop, hstop, hrequest⟩ := hconverts
  cases hrequest
  refine ⟨rfl, rfl, fun key => ?_⟩
  cases key with
  | dbms => exact dbmsName_of_ofOptionalNumber hdbms
  | securityLevel => exact level_of_securityLevelOf hlevel
  | deniedFrom => exact parts_of_instantOf hstart
  | deniedTo => exact parts_of_instantOf hstop
  | _ => rfl

/-! ## What the service keeps -/

namespace UpdateInfobase

variable {uuids : Nat → String} {course : Course} {s : Situation}

theorem plan_eq_ok
    {message : UpdateInfobaseRequest} {request : UpdateInfobase}
    (hconverts : ofMessage message = .ok request) :
    Rpc.updateInfobase.plan message =
      .ok ⟨.update request, fun outcome =>
        ⟨outcome.infobaseId, outcome.message, outcome.success⟩⟩ := by
  rw [Rpc.plan, hconverts]
  rfl

/-- An update that succeeds has sent its one envelope. -/
theorem sent_of_success {σ : Type}
    {request : UpdateInfobase} {S : Surroundings σ} {s : σ} {outcome : LifecycleOutcome}
    (hsuccess : (request.perform.outcome.run S s).outcome = some (.ok outcome)) :
    (request.perform.outcome.run S s).sent = [.updateInfobase request.info] := by
  have hprefix : (request.perform.outcome.run S s).sent <+: [.updateInfobase request.info] :=
    (GatewayTask.update request).prefix_sent S s
  have hended : ((GatewayTask.update request).perform.outcome.run S s).outcome =
      some (.ok outcome) := hsuccess
  obtain ⟨before, envelope, cancelled, response, after, hsteps, -, -⟩ :=
    GatewayTask.last_answered_of_success hended
  have hmem : envelope ∈ (request.perform.outcome.run S s).sent := by
    have hstep : .send envelope cancelled (some (.ok response)) ∈
        (request.perform.outcome.run S s).steps := by
      have hsplit : .send envelope cancelled (some (.ok response)) ∈
          before ++ .send envelope cancelled (some (.ok response)) :: after := by simp
      rwa [← hsteps] at hsplit
    exact List.mem_filterMap.mpr ⟨_, hstep, rfl⟩
  rcases List.prefix_cons_iff.mp hprefix with hnone | ⟨rest, hrest, hnil⟩
  · rw [hnone] at hmem
    cases hmem
  · rw [hrest, List.prefix_nil.mp hnil]

/-- A valid update of an infobase that is there succeeds if its caller does not withdraw. -/
theorem exists_ok_of_stored
    {request : UpdateInfobase}
    (hids : Filled request.clusterId ∧ Filled request.infobaseId)
    (hstored : s.service.store.HasInfobase request.clusterId request.infobaseId)
    (hsteadfast : ∀ moment, course.withdrawn moment = false) :
    ∃ outcome, (request.perform.evalAt uuids course s).1 = .ok outcome := by
  have hsettles : (GatewayTask.update request).Settles uuids course (course.clock s.moment)
      s.service ((GatewayTask.update request).perform.evalAt uuids course s) :=
    GatewayTask.settles_of_not_isCreation not_false
  show ∃ outcome, ((GatewayTask.update request).perform.evalAt uuids course s).1 = .ok outcome
  have hexplains := s.service.store.explains_handle (uuids s.service.issued)
    (GatewayTask.update request).envelope
  generalize (GatewayTask.update request).perform.evalAt uuids course s = ended at hsettles ⊢
  cases hsettles with
  | invalid hinvalid error hsame => exact absurd hids hinvalid
  | unsupported hvalid hunsupported mode hsame => exact hunsupported.elim
  | found hvalid hcreation hstored result hsame => exact hcreation.elim
  | exchanged hvalid hsupported hexchanged =>
    cases hexchanged with
    | withdrawn hcode hwithdrawn hsame =>
      rw [hsteadfast] at hwithdrawn
      cases hwithdrawn
    | rejected hhandle hname hsame =>
      rw [hhandle] at hexplains
      rcases hexplains with ⟨-, hmissing⟩ | ⟨-, hcreation⟩ | ⟨-, -, hrefused⟩
      · exact absurd ⟨_, rfl, hstored⟩ hmissing
      · exact hcreation.elim
      · exact absurd trivial hrefused
    | answered hhandle result hafter => exact ⟨result, rfl⟩

end UpdateInfobase

namespace Rpc

section

variable {message : UpdateInfobaseRequest} {request : UpdateInfobase}
  {response : UpdateInfobaseResponse}

/-- The call of an update that succeeds has sent the envelope of its request, and nothing else. -/
theorem sent_of_update_success {σ : Type} {S : Surroundings σ} {s : σ}
    (hconverts : UpdateInfobase.ofMessage message = .ok request)
    (hsuccess : ((updateInfobase.serve message).run S s).outcome = some (.ok response)) :
    ((updateInfobase.serve message).run S s).sent = [.updateInfobase request.info] := by
  obtain ⟨hdialogue, houtcome⟩ :=
    run_serve_of_plan_eq_ok (UpdateInfobase.plan_eq_ok hconverts) S s
  rw [houtcome] at hsuccess
  obtain ⟨result, hresult, hanswer⟩ := Option.map_eq_some_iff.mp hsuccess
  obtain ⟨outcome, rfl⟩ := exists_ok_of_answer_eq_ok hanswer
  rw [Run.sent_eq_sentOf, ← sentOf_dialogueOf, hdialogue, sentOf_dialogueOf,
    ← Run.sent_eq_sentOf]
  exact UpdateInfobase.sent_of_success hresult

/-- The call of an update that succeeds has patched the record of its infobase. -/
theorem patches_of_update_success
    {uuids : Nat → String} {course : Course} {s : Situation}
    (hconverts : UpdateInfobase.ofMessage message = .ok request)
    (hsuccess : ((updateInfobase.serve message).run (Service.during uuids course) s).outcome =
      some (.ok response)) :
    s.service.store.Patches
      ((updateInfobase.serve message).run (Service.during uuids course) s).final.service.store
      request.clusterId request.infobaseId request.info.toAttributes :=
  effect_of_success (UpdateInfobase.plan_eq_ok hconverts)
    (GatewayTask.settles_of_not_isCreation (s := s.later 2) not_false)
    hsuccess

end

/-- An update that succeeds has sent one envelope with what its message gives, and the record of the
infobase has changed accordingly. -/
def KeepsPresence (message : UpdateInfobaseRequest) (sent : List EndpointRequest)
    (before after : Store) : Prop :=
  ∃ patch, sent = [.updateInfobase patch] ∧
    patch.clusterId = message.clusterId ∧ patch.uuid = some message.infobaseId ∧
    (∀ key, message.Gives key (patch.toAttributes.get? key)) ∧
    before.Patches after message.clusterId message.infobaseId patch.toAttributes

/-- An update converts exactly if its numbers and times have a meaning. When it succeeds, whatever
the store held before and whenever its caller withdraws, presence and absence of each attribute have
come through to the envelope and to the record. It does succeed for an infobase that is there, if
its caller does not withdraw. -/
theorem presence_of_update
    (uuids : Nat → String) (course : Course) (message : UpdateInfobaseRequest) (s : Situation) :
    let run := (updateInfobase.serve message).run (Service.during uuids course) s
    ((∃ request, UpdateInfobase.ofMessage message = .ok request) ↔
        updateInfobase.Converts message) ∧
      (∀ response, run.outcome = some (.ok response) →
        KeepsPresence message run.sent s.service.store run.final.service.store) ∧
      (updateInfobase.Converts message →
        Filled message.clusterId → Filled message.infobaseId →
        s.service.store.HasInfobase message.clusterId message.infobaseId →
        (∀ moment, course.withdrawn moment = false) →
          ∃ response, run.outcome = some (.ok response)) := by
  intro run
  have hconverts : (∃ request, UpdateInfobase.ofMessage message = .ok request) ↔
      updateInfobase.Converts message := by
    rw [← exists_plan_eq_ok_iff, plan, exists_map_eq_ok_iff]
  refine ⟨hconverts, ?_, ?_⟩
  · intro response hsuccess
    cases hofMessage : UpdateInfobase.ofMessage message with
    | error error =>
      have hplan : updateInfobase.plan message = .error error := by
        rw [plan, hofMessage]
        rfl
      have hfailed : run.outcome = some (.error error.status) :=
        (run_serve_of_plan_eq_error hplan _ s).2
      rw [hfailed] at hsuccess
      cases hsuccess
    | ok request =>
      obtain ⟨hclusterId, hinfobaseId, hgives⟩ := gives_of_ofMessage hofMessage
      refine ⟨request.info, sent_of_update_success hofMessage hsuccess, hclusterId,
        congrArg some hinfobaseId, hgives, ?_⟩
      rw [← hclusterId, ← hinfobaseId]
      exact patches_of_update_success hofMessage hsuccess
  · intro hmeaning hcluster hinfobase hstored hsteadfast
    obtain ⟨request, hrequest⟩ := hconverts.mpr hmeaning
    obtain ⟨hclusterId, hinfobaseId, -⟩ := gives_of_ofMessage hrequest
    rw [← hclusterId] at hcluster hstored
    rw [← hinfobaseId] at hinfobase hstored
    have hperformed : ∃ outcome,
        (request.perform.evalAt uuids course (s.later 2)).1 = .ok outcome :=
      UpdateInfobase.exists_ok_of_stored ⟨hcluster, hinfobase⟩ hstored hsteadfast
    obtain ⟨outcome, hok⟩ := hperformed
    obtain ⟨houtcome, -⟩ := (updateInfobase.serve message).run_during uuids course s
    have hperform : (GatewayTask.update request).perform = request.perform := rfl
    rw [houtcome, eval_serve_of_plan_eq_ok uuids course (UpdateInfobase.plan_eq_ok hrequest),
      hperform, hok]
    exact ⟨_, rfl⟩

def lockedInfobase : InfobaseInfo where
  clusterId := "c-1"
  uuid := some "ib-1"
  name := some "trade"
  locale := some "ru"
  sessionsDeny := some true
  deniedMessage := some "closed"

/-- A cluster with a locked infobase. -/
def lockedTrade : Situation :=
  ⟨⟨Store.empty.putCluster "c-1" ((Cluster.new "c-1").append lockedInfobase), 0⟩, 0⟩

/-- An update that unlocks the infobase, empties its message and gives no locale. -/
def unlockTrade : UpdateInfobaseRequest :=
  ⟨"c-1", "ib-1", some false, none, some "", none, some ⟨0, 0⟩, none, some 2, none, none, none,
    none, none, some 0, none, some 0, some false, none, none⟩

theorem presence_of_update_unlock :
    let run := (updateInfobase.serve unlockTrade).run
      (Service.during (fun _ => "ib-2") (Course.still ⟨0, 0⟩)) lockedTrade
    (∃ response, run.outcome = some (.ok response)) ∧
      KeepsPresence unlockTrade run.sent lockedTrade.service.store run.final.service.store := by
  intro run
  obtain ⟨-, hkept, hsucceeds⟩ :=
    presence_of_update (fun _ => "ib-2") (Course.still ⟨0, 0⟩) unlockTrade lockedTrade
  have hmeaning : updateInfobase.Converts unlockTrade := by
    refine ⟨?_, ?_, ?_, ?_⟩
    · rintro dbms ⟨⟩
      decide
    · rintro level ⟨⟩
      decide
    · nofun
    · rintro stop ⟨⟩
      unfold Timestamp.Representable
      decide
  have hcluster : Filled unlockTrade.clusterId := ⟨'c', by decide, by decide⟩
  have hinfobase : Filled unlockTrade.infobaseId := ⟨'i', by decide, by decide⟩
  have hstored : lockedTrade.service.store.HasInfobase "c-1" "ib-1" :=
    ⟨_, rfl, _, List.mem_cons_self, rfl⟩
  obtain ⟨response, hsuccess⟩ := hsucceeds hmeaning hcluster hinfobase hstored fun _ => rfl
  exact ⟨⟨response, hsuccess⟩, hkept response hsuccess⟩

end Rpc

end InfobaseGateway
