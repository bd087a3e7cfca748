import InfobaseGateway.Proofs.Endpoint
import InfobaseGateway.Store.Service

/-!
# Which requests a store answers

A request addresses a cluster, and perhaps an infobase or a session in it. The store answers exactly
the requests whose addressee it holds; a check of credentials must be admitted as well, and a new
infobase needs a name that is free. Whatever it answers is of the kind that was asked for, and a
request that it rejects leaves everything as it was.
-/

namespace InfobaseGateway

/-! ## What a store holds -/

namespace Store

/-- The store holds a cluster with this id. -/
def HasCluster (store : Store) (clusterId : String) : Prop :=
  ∃ cluster, store.clusters.get? clusterId = some cluster

/-- The cluster holds an infobase with this uuid. -/
def HasInfobase (store : Store) (clusterId infobaseId : String) : Prop :=
  ∃ cluster, store.clusters.get? clusterId = some cluster ∧
    ∃ infobase ∈ cluster.infobases, infobase.uuid = some infobaseId

/-- The cluster holds a session with this uuid. -/
def HasSession (store : Store) (clusterId sessionId : String) : Prop :=
  ∃ cluster, store.clusters.get? clusterId = some cluster ∧
    ∃ session, cluster.sessions.get? sessionId = some session

/-- The credential list of a scope. A cluster that is not stored has none. -/
def credentialList (store : Store) : AuthScope → List Account
  | .agent => store.agentAdmins
  | .cluster clusterId => ((store.clusters.get? clusterId).map (·.admins)).getD []
  | .infobase clusterId => ((store.clusters.get? clusterId).map (·.infobaseUsers)).getD []

/-- The credential list of the scope is empty, or one of its entries has this user and this
password. -/
def Admits (store : Store) (auth : Authenticate) : Prop :=
  store.credentialList auth.scope = [] ∨
    ∃ account ∈ store.credentialList auth.scope,
      account.user = auth.credentials.user.getD "" ∧
        account.password = auth.credentials.password.getD ""

end Store

namespace Cluster

/-- A uuid finds an infobase exactly if one has it. No uuid finds none. -/
theorem exists_infobase?_iff (cluster : Cluster) (uuid : Option String) :
    (∃ infobase, cluster.infobase? uuid = some infobase) ↔
      ∃ infobase ∈ cluster.infobases, infobase.uuid.isSome = true ∧ infobase.uuid = uuid := by
  rw [← Option.isSome_iff_exists, infobase?, List.find?_isSome]
  simp only [Bool.and_eq_true, decide_eq_true_eq]

/-- The cluster with a new infobase at its end. -/
def append (cluster : Cluster) (infobase : InfobaseInfo) : Cluster :=
  { cluster with infobases := cluster.infobases ++ [infobase] }

end Cluster

/-- The short listing keeps the names of those that have one. -/
theorem InfobaseInfo.short_name_eq_iff
    (record : InfobaseInfo) {name : String} (hname : name ≠ "") :
    record.short.name = name ↔ record.name = some name := by
  simp only [InfobaseInfo.short]
  cases record.name with
  | none => simpa using hname.symm
  | some other => simp

/-! ## What a request needs -/

namespace EndpointRequest

/-- The store holds what the request addresses. -/
def TargetStored (store : Store) : EndpointRequest → Prop
  | authenticate auth => ∀ clusterId ∈ auth.scope.clusterId?, store.HasCluster clusterId
  | getClusters => True
  | getClusterInfo clusterId | getSessions clusterId | getInfobasesShort clusterId =>
    store.HasCluster clusterId
  | getInfobaseSessions clusterId infobaseId => store.HasInfobase clusterId infobaseId
  | createInfobase info => store.HasCluster info.clusterId
  | updateInfobase info | unregisterInfobase info =>
    ∃ infobaseId, info.uuid = some infobaseId ∧ store.HasInfobase info.clusterId infobaseId
  | terminateSession session => store.HasSession session.clusterId session.uuid

/-- The request asks for a new infobase. -/
def IsCreation : EndpointRequest → Prop
  | createInfobase _ => True
  | _ => False

/-- The store admits the credentials, if the request is a check of credentials. -/
def Admitted (store : Store) : EndpointRequest → Prop
  | authenticate auth => store.Admits auth
  | _ => True

end EndpointRequest

namespace Rejection

/-- A rejection because what the request addresses is not there. -/
def IsMissing : Rejection → Prop
  | unknownCluster _ | unknownInfobase _ | unknownSession _ => True
  | _ => False

/-- A rejection of a new infobase because of its name. -/
def IsName : Rejection → Prop
  | nameMissing | nameTaken _ => True
  | _ => False

end Rejection

namespace Store

variable {store : Store}

/-- What the answer of a store says about a request. -/
def Explains (store : Store) (request : EndpointRequest) :
    Except Rejection (EndpointResponse × Store) → Prop
  | .ok (response, _) =>
    (∃ content, response.content? request.expects = some content) ∧
      request.TargetStored store ∧ request.Admitted store
  | .error rejection =>
    (rejection.IsMissing ∧ ¬request.TargetStored store) ∨
      (rejection.IsName ∧ request.IsCreation) ∨
      (∃ scope, rejection = .wrongCredentials scope) ∧
        request.TargetStored store ∧ ¬request.Admitted store

theorem cluster_of_get? {clusterId : String} {cluster : Cluster}
    (hget : store.clusters.get? clusterId = some cluster) :
    store.cluster clusterId = .ok cluster := by
  simp [Store.cluster, hget]

theorem cluster_of_not_hasCluster {clusterId : String}
    (hmissing : ¬store.HasCluster clusterId) :
    store.cluster clusterId = .error (.unknownCluster clusterId) := by
  cases hget : store.clusters.get? clusterId with
  | some cluster => exact absurd ⟨cluster, hget⟩ hmissing
  | none => simp [Store.cluster, hget]

/-- A store holds an infobase exactly if its cluster finds it. -/
theorem exists_hasInfobase_iff
    {clusterId : String} {cluster : Cluster}
    (hget : store.clusters.get? clusterId = some cluster) (uuid : Option String) :
    (∃ infobaseId, uuid = some infobaseId ∧ store.HasInfobase clusterId infobaseId) ↔
      ∃ infobase, cluster.infobase? uuid = some infobase := by
  rw [Cluster.exists_infobase?_iff]
  constructor
  · rintro ⟨infobaseId, rfl, other, hother, infobase, hmem, huuid⟩
    cases hget.symm.trans hother
    exact ⟨infobase, hmem, by simp [huuid], huuid⟩
  · rintro ⟨infobase, hmem, hsome, huuid⟩
    obtain ⟨infobaseId, hid⟩ := Option.isSome_iff_exists.mp hsome
    exact ⟨infobaseId, huuid.symm.trans hid, cluster, hget, infobase, hmem, hid⟩

theorem hasInfobase_iff
    {clusterId : String} {cluster : Cluster}
    (hget : store.clusters.get? clusterId = some cluster) (infobaseId : String) :
    store.HasInfobase clusterId infobaseId ↔
      ∃ infobase, cluster.infobase? (some infobaseId) = some infobase := by
  rw [← exists_hasInfobase_iff hget]
  constructor
  · intro hstored
    exact ⟨infobaseId, rfl, hstored⟩
  · rintro ⟨other, hsame, hstored⟩
    rw [Option.some.inj hsame]
    exact hstored

theorem hasSession_iff
    {clusterId : String} {cluster : Cluster}
    (hget : store.clusters.get? clusterId = some cluster) (sessionId : String) :
    store.HasSession clusterId sessionId ↔ cluster.sessions.contains sessionId = true := by
  rw [Keyed.contains, Option.isSome_iff_exists]
  constructor
  · rintro ⟨other, hother, session, hsession⟩
    cases hget.symm.trans hother
    exact ⟨session, hsession⟩
  · rintro ⟨session, hsession⟩
    exact ⟨cluster, hget, session, hsession⟩

/-- The members of a stored cluster are there only if the cluster is. -/
theorem EndpointRequest.hasCluster_of_targetStored
    {request : EndpointRequest} (hstored : request.TargetStored store)
    {clusterId : String} (hid : request.clusterId? = some clusterId) :
    store.HasCluster clusterId := by
  cases request with
  | authenticate auth => exact hstored clusterId hid
  | getClusters => cases hid
  | getClusterInfo id | getSessions id | getInfobasesShort id =>
    cases hid
    exact hstored
  | getInfobaseSessions id infobaseId =>
    cases hid
    obtain ⟨cluster, hget, -⟩ := hstored
    exact ⟨cluster, hget⟩
  | createInfobase info =>
    cases hid
    exact hstored
  | updateInfobase info | unregisterInfobase info =>
    cases hid
    obtain ⟨infobaseId, -, cluster, hget, -⟩ := hstored
    exact ⟨cluster, hget⟩
  | terminateSession session =>
    cases hid
    obtain ⟨cluster, hget, -⟩ := hstored
    exact ⟨cluster, hget⟩

/-- Without its cluster, a request is rejected whatever it asks for. -/
theorem handle_of_not_hasCluster
    (uuid : String) (request : EndpointRequest) {clusterId : String}
    (hid : request.clusterId? = some clusterId) (hmissing : ¬store.HasCluster clusterId) :
    store.handle uuid request = .error (.unknownCluster clusterId) := by
  have hcluster := cluster_of_not_hasCluster hmissing
  cases request with
  | authenticate auth =>
    have haccounts : store.accounts auth.scope = .error (.unknownCluster clusterId) := by
      cases hscope : auth.scope with
      | agent => simp [EndpointRequest.clusterId?, hscope, AuthScope.clusterId?] at hid
      | cluster id | infobase id =>
        simp only [EndpointRequest.clusterId?, hscope, AuthScope.clusterId?,
          Option.some.injEq] at hid
        subst hid
        simp [accounts, hcluster, Except.map]
    simp [handle, haccounts, bind, Except.bind]
  | getClusters => cases hid
  | _ =>
    cases hid
    simp [handle, hcluster, bind, Except.bind]

theorem accounts_of_hasCluster
    {scope : AuthScope} (hstored : ∀ clusterId ∈ scope.clusterId?, store.HasCluster clusterId) :
    store.accounts scope = .ok (store.credentialList scope) := by
  cases scope with
  | agent => rfl
  | cluster id | infobase id =>
    obtain ⟨cluster, hget⟩ := hstored id rfl
    simp [accounts, cluster_of_get? hget, credentialList, hget, Except.map]

theorem admits_eq_true_iff (auth : Authenticate) :
    admits (store.credentialList auth.scope) auth.credentials = true ↔ store.Admits auth := by
  simp [admits, Admits]

section Stored

-- The cluster of the request is stored in these lemmas; each looks at what the store reads next.
variable {uuid : String} {cluster : Cluster}

theorem explains_authenticate
    {auth : Authenticate}
    (hstored : ∀ clusterId ∈ auth.scope.clusterId?, store.HasCluster clusterId) :
    store.Explains (.authenticate auth) (store.handle uuid (.authenticate auth)) := by
  simp only [handle, accounts_of_hasCluster hstored, bind, Except.bind]
  by_cases hadmits : store.Admits auth
  · rw [if_pos ((admits_eq_true_iff auth).mpr hadmits)]
    exact ⟨⟨(), rfl⟩, hstored, hadmits⟩
  · rw [if_neg (mt (admits_eq_true_iff auth).mp hadmits)]
    exact .inr (.inr ⟨⟨auth.scope, rfl⟩, hstored, hadmits⟩)

theorem explains_getInfobaseSessions
    {clusterId : String} (hget : store.clusters.get? clusterId = some cluster)
    (infobaseId : String) :
    store.Explains (.getInfobaseSessions clusterId infobaseId)
      (store.handle uuid (.getInfobaseSessions clusterId infobaseId)) := by
  have hstored := hasInfobase_iff hget infobaseId
  simp only [handle, cluster_of_get? hget, bind, Except.bind]
  cases hinfobase : cluster.infobase? (some infobaseId) with
  | some infobase => exact ⟨⟨_, rfl⟩, hstored.mpr ⟨infobase, hinfobase⟩, trivial⟩
  | none =>
    refine .inl ⟨trivial, mt hstored.mp ?_⟩
    simp [hinfobase]

theorem explains_createInfobase
    {info : InfobaseInfo} (hget : store.clusters.get? info.clusterId = some cluster) :
    store.Explains (.createInfobase info) (store.handle uuid (.createInfobase info)) := by
  simp only [handle, cluster_of_get? hget, bind, Except.bind]
  cases info.name with
  | none => exact .inr (.inl ⟨trivial, trivial⟩)
  | some name =>
    by_cases htaken : cluster.hasName name = true
    · simp only [if_pos htaken]
      exact .inr (.inl ⟨trivial, trivial⟩)
    · simp only [if_neg htaken]
      exact ⟨⟨_, rfl⟩, ⟨cluster, hget⟩, trivial⟩

theorem explains_terminateSession
    {session : SessionInfo} (hget : store.clusters.get? session.clusterId = some cluster) :
    store.Explains (.terminateSession session) (store.handle uuid (.terminateSession session)) := by
  have hstored := hasSession_iff hget session.uuid
  simp only [handle, cluster_of_get? hget, bind, Except.bind]
  by_cases hcontains : cluster.sessions.contains session.uuid = true
  · rw [if_pos hcontains]
    exact ⟨⟨_, rfl⟩, hstored.mpr hcontains, trivial⟩
  · rw [if_neg hcontains]
    exact .inl ⟨trivial, mt hstored.mp hcontains⟩

end Stored

/-- A store answers a request, or rejects it, for the reasons above. -/
theorem explains_handle (store : Store) (uuid : String) (request : EndpointRequest) :
    store.Explains request (store.handle uuid request) := by
  by_cases hcluster : ∀ clusterId, request.clusterId? = some clusterId →
      store.HasCluster clusterId
  · cases request with
    | authenticate auth => exact explains_authenticate hcluster
    | getClusters => exact ⟨⟨_, rfl⟩, trivial, trivial⟩
    | getClusterInfo clusterId | getSessions clusterId | getInfobasesShort clusterId =>
      obtain ⟨cluster, hget⟩ := hcluster clusterId rfl
      simp only [handle, cluster_of_get? hget, bind, Except.bind]
      exact ⟨⟨_, rfl⟩, ⟨cluster, hget⟩, trivial⟩
    | getInfobaseSessions clusterId infobaseId =>
      obtain ⟨cluster, hget⟩ := hcluster clusterId rfl
      exact explains_getInfobaseSessions hget infobaseId
    | createInfobase info =>
      obtain ⟨cluster, hget⟩ := hcluster info.clusterId rfl
      exact explains_createInfobase hget
    | updateInfobase info | unregisterInfobase info =>
      obtain ⟨cluster, hget⟩ := hcluster info.clusterId rfl
      have hstored := exists_hasInfobase_iff hget info.uuid
      simp only [handle, cluster_of_get? hget, bind, Except.bind]
      cases hinfobase : cluster.infobase? info.uuid with
      | some infobase => exact ⟨⟨_, rfl⟩, hstored.mpr ⟨infobase, hinfobase⟩, trivial⟩
      | none =>
        refine .inl ⟨trivial, mt hstored.mp ?_⟩
        simp [hinfobase]
    | terminateSession session =>
      obtain ⟨cluster, hget⟩ := hcluster session.clusterId rfl
      exact explains_terminateSession hget
  · obtain ⟨clusterId, hunstored⟩ := Classical.not_forall.mp hcluster
    obtain ⟨hid, hmissing⟩ := Classical.not_imp.mp hunstored
    rw [handle_of_not_hasCluster uuid request hid hmissing]
    refine .inl ⟨trivial, fun hstored => ?_⟩
    exact hmissing (EndpointRequest.hasCluster_of_targetStored hstored hid)

theorem handle_getInfobasesShort
    (uuid : String) {clusterId : String} {cluster : Cluster}
    (hget : store.clusters.get? clusterId = some cluster) :
    store.handle uuid (.getInfobasesShort clusterId) =
      .ok (.infobaseSummaries (cluster.infobases.map InfobaseInfo.short), store) := by
  simp [handle, cluster_of_get? hget, bind, Except.bind]

theorem handle_createInfobase
    (uuid : String) {info : InfobaseInfo} {cluster : Cluster} {name : String}
    (hget : store.clusters.get? info.clusterId = some cluster)
    (hname : info.name = some name) (hfree : cluster.hasName name = false) :
    store.handle uuid (.createInfobase info) =
      .ok (.infobase { info with uuid := some uuid },
        store.putCluster info.clusterId (cluster.append { info with uuid := some uuid })) := by
  simp [handle, cluster_of_get? hget, bind, Except.bind, hname, hfree, Cluster.append]

end Store

/-! ## The service around the store -/

namespace Service

variable {uuids : Nat → String} {service : Service} {request : EndpointRequest}

/-- The service after a request that its store answered. -/
def afterAnswer (service : Service) (request : EndpointRequest) (store : Store) : Service :=
  ⟨store, if usesUuid request then service.issued + 1 else service.issued⟩

theorem answer_of_handle_eq_ok
    {response : EndpointResponse} {store : Store}
    (hhandle : service.store.handle (uuids service.issued) request = .ok (response, store)) :
    service.answer uuids request = (.ok response, service.afterAnswer request store) := by
  simp only [answer, hhandle, afterAnswer]

theorem answer_of_handle_eq_error
    {rejection : Rejection}
    (hhandle : service.store.handle (uuids service.issued) request = .error rejection) :
    service.answer uuids request = (.error rejection, service) := by
  simp only [answer, hhandle]

theorem answer_cases (uuids : Nat → String) (service : Service) (request : EndpointRequest) :
    (∃ response store,
      service.store.handle (uuids service.issued) request = .ok (response, store) ∧
        service.answer uuids request = (.ok response, service.afterAnswer request store)) ∨
      ∃ rejection,
        service.store.handle (uuids service.issued) request = .error rejection ∧
          service.answer uuids request = (.error rejection, service) := by
  cases hhandle : service.store.handle (uuids service.issued) request with
  | ok answered =>
    exact .inl ⟨answered.1, answered.2, rfl, answer_of_handle_eq_ok hhandle⟩
  | error rejection => exact .inr ⟨rejection, rfl, answer_of_handle_eq_error hhandle⟩

end Service

end InfobaseGateway
