import InfobaseGateway.Proofs.Store.Change
import InfobaseGateway.Proofs.Store.Keyed

/-!
# Requests and their clusters

A request that names a cluster is handled inside that cluster: what it is answered depends on
nothing else, and nothing else changes. A request that names none reads who administers the agent
or what the clusters say about themselves, and changes nothing. So stores that agree on what a
request can see give it the same answer and still agree afterwards.
-/

namespace InfobaseGateway

namespace Store

/-! ## What a request can see -/

/-- The stores agree on what a request with this cluster can see. Without a cluster that is who
administers the agent and what the clusters say about themselves. -/
def AgreesOn (store other : Store) : Option String → Prop
  | some clusterId => store.clusters.get? clusterId = other.clusters.get? clusterId
  | none =>
    store.agentAdmins = other.agentAdmins ∧
      store.clusters.toList.map (·.summary) = other.clusters.toList.map (·.summary)

/-- A change inside one cluster, or no change of any cluster if there is none. No change shows in
what the clusters say about themselves. -/
structure ChangesInside (clusterId? : Option String) (before after : Store) : Prop where
  others : ∀ clusterId, clusterId? ≠ some clusterId →
    after.clusters.get? clusterId = before.clusters.get? clusterId
  sameClusters : before.SameClusters after

theorem SameClusters.trans
    {before between after : Store} (h : before.SameClusters between)
    (h' : between.SameClusters after) : before.SameClusters after where
  standing := fun clusterId => (h'.standing clusterId).trans (h.standing clusterId)
  agentAdmins := h'.agentAdmins.trans h.agentAdmins

theorem SameClusters.summaries
    {before after : Store} (h : before.SameClusters after) :
    after.clusters.toList.map (·.summary) = before.clusters.toList.map (·.summary) := by
  rw [← Keyed.toList_map, ← Keyed.toList_map]
  congr 1
  refine Keyed.ext_get? fun clusterId => ?_
  have hsummary := congrArg (Option.map Prod.fst) (h.standing clusterId)
  rw [Option.map_map, Option.map_map] at hsummary
  rw [Keyed.get?_map, Keyed.get?_map]
  exact hsummary

namespace ChangesInside

variable {clusterId? : Option String} {before between after : Store}

theorem refl (clusterId? : Option String) (store : Store) : ChangesInside clusterId? store store :=
  ⟨fun _ _ => rfl, .refl store⟩

theorem trans
    (h : ChangesInside clusterId? before between) (h' : ChangesInside clusterId? between after) :
    ChangesInside clusterId? before after where
  others := fun clusterId hother =>
    (h'.others clusterId hother).trans (h.others clusterId hother)
  sameClusters := h.sameClusters.trans h'.sameClusters

/-- A request with another cluster, or with none, does not see a change inside a cluster. -/
theorem agreesOn
    (h : ChangesInside clusterId? before after) {seen : Option String}
    (hother : ∀ clusterId, seen = some clusterId → clusterId? ≠ some clusterId) :
    before.AgreesOn after seen := by
  cases seen with
  | some clusterId => exact (h.others clusterId (hother clusterId rfl)).symm
  | none => exact ⟨h.sameClusters.agentAdmins.symm, h.sameClusters.summaries.symm⟩

end ChangesInside

/-! ## Handling a request inside its cluster -/

/-- The request is handled inside its cluster, which keeps what it is known by. -/
def HandledInside (uuid : String) (request : EndpointRequest) (clusterId : String) : Prop :=
  ∃ inside : Cluster → Except Rejection (EndpointResponse × Cluster),
    (∀ cluster response new, inside cluster = .ok (response, new) →
      Cluster.standing new = Cluster.standing cluster) ∧
    ∀ (store : Store) (cluster : Cluster), store.clusters.get? clusterId = some cluster →
      store.handle uuid request =
        (inside cluster).map fun answer => (answer.1, store.putCluster clusterId answer.2)

/-- To put a cluster where it is changes nothing. -/
theorem putCluster_of_get?
    {store : Store} {clusterId : String} {cluster : Cluster}
    (hget : store.clusters.get? clusterId = some cluster) :
    store.putCluster clusterId cluster = store := by
  have hsame : store.clusters.insert clusterId cluster = store.clusters := by
    refine Keyed.ext_get? fun other => ?_
    rw [Keyed.get?_insert]
    by_cases hother : other = clusterId
    · rw [if_pos hother, hother, hget]
    · rw [if_neg hother]
  rw [putCluster, hsame]

section Inside

variable (uuid : String)

/-- A request that only reads its cluster. -/
theorem handledInside_of_reads
    {request : EndpointRequest} {clusterId : String}
    (reading : Cluster → Except Rejection EndpointResponse)
    (hreads : ∀ (store : Store) (cluster : Cluster),
      store.clusters.get? clusterId = some cluster →
        store.handle uuid request = (reading cluster).map fun response => (response, store)) :
    HandledInside uuid request clusterId := by
  refine ⟨fun cluster => (reading cluster).map fun response => (response, cluster), ?_, ?_⟩
  · intro cluster response new hinside
    cases hreading : reading cluster with
    | error rejection => simp [hreading, Except.map] at hinside
    | ok response =>
      simp only [hreading, Except.map, Except.ok.injEq, Prod.mk.injEq] at hinside
      rw [hinside.2]
  · intro store cluster hget
    rw [hreads store cluster hget]
    dsimp only
    cases reading cluster with
    | error rejection => rfl
    | ok response => simp only [Except.map, putCluster_of_get? hget]

/-- A request that changes its cluster after it found an infobase there. -/
theorem handledInside_of_finds
    {request : EndpointRequest} {clusterId : String} (target : Option String)
    (response : InfobaseInfo → EndpointResponse) (change : Cluster → Cluster)
    (hstanding : ∀ cluster, Cluster.standing (change cluster) = Cluster.standing cluster)
    (hfinds : ∀ (store : Store) (cluster : Cluster),
      store.clusters.get? clusterId = some cluster →
        store.handle uuid request =
          match cluster.infobase? target with
          | some infobase => .ok (response infobase, store.putCluster clusterId (change cluster))
          | none => .error (.unknownInfobase target)) :
    HandledInside uuid request clusterId := by
  refine ⟨fun cluster =>
    match cluster.infobase? target with
    | some infobase => .ok (response infobase, change cluster)
    | none => .error (.unknownInfobase target), ?_, ?_⟩
  · intro cluster response new hinside
    cases hfound : cluster.infobase? target with
    | none => simp [hfound] at hinside
    | some infobase =>
      simp only [hfound, Except.ok.injEq, Prod.mk.injEq] at hinside
      rw [← hinside.2]
      exact hstanding cluster
  · intro store cluster hget
    rw [hfinds store cluster hget]
    dsimp only
    cases cluster.infobase? target with
    | none => rfl
    | some infobase => rfl

/-- A check of credentials reads one list of accounts of its cluster. -/
theorem handledInside_authenticate
    {auth : Authenticate} {clusterId : String} {accountsOf : Cluster → List Account}
    (haccounts : ∀ store : Store,
      store.accounts auth.scope = (store.cluster clusterId).map accountsOf) :
    HandledInside uuid (.authenticate auth) clusterId := by
  refine handledInside_of_reads uuid (fun cluster =>
    if admits (accountsOf cluster) auth.credentials then .ok .authenticated
    else .error (.wrongCredentials auth.scope)) fun store cluster hget => ?_
  simp only [handle, haccounts, cluster_of_get? hget, Except.map, bind, Except.bind]
  cases admits (accountsOf cluster) auth.credentials with
  | true => rfl
  | false => rfl

theorem handledInside_getInfobaseSessions (clusterId infobaseId : String) :
    HandledInside uuid (.getInfobaseSessions clusterId infobaseId) clusterId := by
  refine handledInside_of_reads uuid (fun cluster =>
    match cluster.infobase? (some infobaseId) with
    | some _ =>
      .ok (.sessions (cluster.sessions.toList.filter fun session =>
        session.infobaseId = infobaseId))
    | none => .error (.unknownInfobase (some infobaseId))) fun store cluster hget => ?_
  simp only [handle, cluster_of_get? hget, bind, Except.bind]
  cases cluster.infobase? (some infobaseId) with
  | some infobase => rfl
  | none => rfl

theorem handledInside_createInfobase (info : InfobaseInfo) :
    HandledInside uuid (.createInfobase info) info.clusterId := by
  refine ⟨fun cluster =>
    info.name.elim (.error .nameMissing) fun name =>
      if cluster.hasName name then .error (.nameTaken name)
      else
        .ok (.infobase { info with uuid := some uuid },
          cluster.append { info with uuid := some uuid }), ?_, ?_⟩
  · intro cluster response new hinside
    cases hname : info.name with
    | none => simp [hname] at hinside
    | some name =>
      cases htaken : cluster.hasName name with
      | true => simp [hname, htaken] at hinside
      | false =>
        simp only [hname, Option.elim_some, htaken, Bool.false_eq_true, if_false, Except.ok.injEq,
          Prod.mk.injEq] at hinside
        rw [← hinside.2]
        rfl
  · intro store cluster hget
    simp only [handle, cluster_of_get? hget, bind, Except.bind]
    cases info.name with
    | none => rfl
    | some name =>
      simp only [Option.elim_some]
      cases cluster.hasName name with
      | true => rfl
      | false => rfl

theorem handledInside_terminateSession (session : SessionInfo) :
    HandledInside uuid (.terminateSession session) session.clusterId := by
  refine ⟨fun cluster =>
    if cluster.sessions.contains session.uuid then
      .ok (.session session, { cluster with sessions := cluster.sessions.erase session.uuid })
    else .error (.unknownSession session.uuid), ?_, ?_⟩
  · intro cluster response new hinside
    cases hstored : cluster.sessions.contains session.uuid with
    | false => simp [hstored] at hinside
    | true =>
      simp only [hstored, if_true, Except.ok.injEq, Prod.mk.injEq] at hinside
      rw [← hinside.2]
      rfl
  · intro store cluster hget
    simp only [handle, cluster_of_get? hget, bind, Except.bind]
    cases cluster.sessions.contains session.uuid with
    | true => rfl
    | false => rfl

/-- Every request that names a cluster is handled inside it. -/
theorem handledInside
    {request : EndpointRequest} {clusterId : String} (hid : request.clusterId? = some clusterId) :
    HandledInside uuid request clusterId := by
  have hcluster {store : Store} {cluster : Cluster}
      (hget : store.clusters.get? clusterId = some cluster) := cluster_of_get? hget
  cases request with
  | getClusters => cases hid
  | authenticate auth =>
    obtain ⟨scope, credentials⟩ := auth
    cases scope with
    | agent => cases hid
    | cluster id =>
      cases hid
      exact handledInside_authenticate uuid fun store => rfl
    | infobase id =>
      cases hid
      exact handledInside_authenticate uuid fun store => rfl
  | getClusterInfo id =>
    cases hid
    refine handledInside_of_reads uuid (fun cluster => .ok (.cluster cluster.summary))
      fun store cluster hget => ?_
    simp only [handle, hcluster hget, Except.map, bind, Except.bind]
  | getSessions id =>
    cases hid
    refine handledInside_of_reads uuid (fun cluster => .ok (.sessions cluster.sessions.toList))
      fun store cluster hget => ?_
    simp only [handle, hcluster hget, Except.map, bind, Except.bind]
  | getInfobasesShort id =>
    cases hid
    exact handledInside_of_reads uuid
      (fun cluster => .ok (.infobaseSummaries (cluster.infobases.map InfobaseInfo.short)))
      fun store cluster hget => handle_getInfobasesShort uuid hget
  | getInfobaseSessions id infobaseId =>
    cases hid
    exact handledInside_getInfobaseSessions uuid clusterId infobaseId
  | createInfobase info =>
    cases hid
    exact handledInside_createInfobase uuid info
  | updateInfobase patch =>
    cases hid
    refine handledInside_of_finds uuid patch.uuid
      (fun infobase => .infobase (infobase.patchedBy patch))
      (fun cluster => cluster.modifyInfobase patch.uuid (·.patchedBy patch)) (fun cluster => rfl)
      fun store cluster hget => ?_
    cases hinfobase : cluster.infobase? patch.uuid with
    | some infobase => simp only [handle, hcluster hget, bind, Except.bind, hinfobase]
    | none => simp only [handle, hcluster hget, bind, Except.bind, hinfobase]
  | unregisterInfobase info =>
    cases hid
    refine handledInside_of_finds uuid info.uuid .infobase
      (fun cluster => cluster.removeInfobase info.uuid) (fun cluster => rfl)
      fun store cluster hget => ?_
    cases hinfobase : cluster.infobase? info.uuid with
    | some infobase => simp only [handle, hcluster hget, bind, Except.bind, hinfobase]
    | none => simp only [handle, hcluster hget, bind, Except.bind, hinfobase]
  | terminateSession session =>
    cases hid
    exact handledInside_terminateSession uuid session

end Inside

/-- A request that names no cluster reads what stores can agree on, and changes nothing. -/
theorem handle_of_no_cluster
    (uuid : String) {request : EndpointRequest} (hid : request.clusterId? = none)
    {store other : Store} (hagree : store.AgreesOn other none) :
    ∃ reading : Except Rejection EndpointResponse,
      (store.handle uuid request = reading.map fun response => (response, store)) ∧
        other.handle uuid request = reading.map fun response => (response, other) := by
  obtain ⟨hadmins, hsummaries⟩ := hagree
  cases request with
  | getClusters =>
    refine ⟨.ok (.clusters (store.clusters.toList.map (·.summary))), rfl, ?_⟩
    rw [hsummaries]
    rfl
  | authenticate auth =>
    obtain ⟨scope, credentials⟩ := auth
    cases scope with
    | cluster id | infobase id => cases hid
    | agent =>
      refine ⟨if admits store.agentAdmins credentials then .ok .authenticated
        else .error (.wrongCredentials .agent), ?_, ?_⟩
      · simp only [handle, accounts, bind, Except.bind]
        cases admits store.agentAdmins credentials with
        | true => rfl
        | false => rfl
      · simp only [handle, accounts, bind, Except.bind, hadmins]
        cases admits other.agentAdmins credentials with
        | true => rfl
        | false => rfl
  | _ => cases hid

/-! ## What requests cannot tell apart and what they leave alone -/

variable {uuid : String} {request : EndpointRequest} {store other after : Store}
  {response : EndpointResponse}

theorem AgreesOn.refl (store : Store) (seen : Option String) : store.AgreesOn store seen := by
  cases seen with
  | some clusterId => exact rfl
  | none => exact ⟨rfl, rfl⟩

theorem AgreesOn.symm {seen : Option String} (h : store.AgreesOn other seen) :
    other.AgreesOn store seen := by
  cases seen with
  | some clusterId => exact Eq.symm h
  | none => exact ⟨h.1.symm, h.2.symm⟩

/-- Stores that agree on what a request can see give it the same answer, and agree afterwards. -/
theorem AgreesOn.handle
    (h : store.AgreesOn other request.clusterId?) (uuid : String) :
    (∃ rejection,
      store.handle uuid request = .error rejection ∧
        other.handle uuid request = .error rejection) ∨
      ∃ response after after',
        store.handle uuid request = .ok (response, after) ∧
          other.handle uuid request = .ok (response, after') ∧
          after.AgreesOn after' request.clusterId? := by
  cases hid : request.clusterId? with
  | none =>
    rw [hid] at h
    obtain ⟨reading, hstore, hother⟩ := handle_of_no_cluster uuid hid h
    cases reading with
    | error rejection => exact .inl ⟨rejection, hstore, hother⟩
    | ok response => exact .inr ⟨response, store, other, hstore, hother, h⟩
  | some clusterId =>
    rw [hid] at h
    obtain ⟨inside, -, hinside⟩ := handledInside uuid hid
    cases hget : store.clusters.get? clusterId with
    | none =>
      have hmissing {some? : Store} (hnone : some?.clusters.get? clusterId = none) :
          some?.handle uuid request = .error (.unknownCluster clusterId) :=
        handle_of_not_hasCluster uuid request hid (by simp [HasCluster, hnone])
      exact .inl ⟨_, hmissing hget, hmissing (h.symm.trans hget)⟩
    | some cluster =>
      rw [hinside store cluster hget, hinside other cluster (h.symm.trans hget)]
      cases inside cluster with
      | error rejection => exact .inl ⟨rejection, rfl, rfl⟩
      | ok answer =>
        refine .inr ⟨answer.1, _, _, rfl, rfl, ?_⟩
        simp [AgreesOn, putCluster]

/-- A request that is answered changes its cluster at most. -/
theorem changesInside_of_handle_eq_ok
    (hhandle : store.handle uuid request = .ok (response, after)) :
    ChangesInside request.clusterId? store after := by
  cases hid : request.clusterId? with
  | none =>
    obtain ⟨reading, hreading, -⟩ := handle_of_no_cluster uuid hid (.refl store none)
    rw [hhandle] at hreading
    cases reading with
    | error rejection => cases hreading
    | ok response =>
      cases hreading
      exact .refl none store
  | some clusterId =>
    obtain ⟨inside, hstanding, hinside⟩ := handledInside uuid hid
    obtain ⟨cluster, hget⟩ := exists_cluster_of_handle_eq_ok hhandle hid
    rw [hinside store cluster hget] at hhandle
    cases hanswer : inside cluster with
    | error rejection =>
      rw [hanswer] at hhandle
      cases hhandle
    | ok answer =>
      rw [hanswer] at hhandle
      cases hhandle
      have hreplaces := replaces_putCluster hget answer.2
      refine ⟨fun other hother => hreplaces.others other ?_,
        hreplaces.sameClusters (hstanding cluster answer.1 answer.2 hanswer)⟩
      rintro rfl
      exact hother rfl

end Store

end InfobaseGateway
