import InfobaseGateway.Proofs.Store.Effect

/-!
# What requests change in a cluster

The requests that change a store change the infobases or the sessions of one cluster. They leave
which clusters there are, what the clusters say about themselves and who may authenticate; and they
change the number of infobases by one exactly when they create or remove one. Renaming is left
aside: no request of the gateway carries a name in an update.
-/

namespace InfobaseGateway

namespace EndpointRequest

/-- The request renames no infobase. -/
def KeepsNames : EndpointRequest → Prop
  | updateInfobase patch => patch.name = none
  | _ => True

/-- What a request that is answered does to a store. A new infobase gets `uuid`. -/
def Effect (uuid : String) (before after : Store) : EndpointRequest → Prop
  | createInfobase info =>
    ∃ cluster name, info.name = some name ∧ cluster.hasName name = false ∧
      before.Replaces after info.clusterId cluster (cluster.append { info with uuid := some uuid })
  | updateInfobase patch =>
    ∃ infobaseId, before.Patches after patch.clusterId infobaseId patch.toAttributes
  | unregisterInfobase info =>
    ∃ infobaseId, info.uuid = some infobaseId ∧ before.Removes after info.clusterId infobaseId
  | terminateSession session => before.EndsSession after session.clusterId session.uuid
  | _ => after = before

/-- By how much the infobases of a cluster become more when the request is answered. -/
def change (clusterId : String) : EndpointRequest → Int
  | createInfobase info => if info.clusterId = clusterId then 1 else 0
  | unregisterInfobase info => if info.clusterId = clusterId then -1 else 0
  | _ => 0

end EndpointRequest

namespace Store

variable {before after : Store} {uuid : String} {response : EndpointResponse}

/-- Only an infobase with a uuid can be found, so a request that is answered has one. -/
theorem exists_uuid_of_handle_eq_ok
    {request : EndpointRequest} {info : InfobaseInfo}
    (hrequest : request = .updateInfobase info ∨ request = .unregisterInfobase info)
    (hhandle : before.handle uuid request = .ok (response, after)) :
    ∃ infobaseId, info.uuid = some infobaseId := by
  have hexplains := before.explains_handle uuid request
  rw [hhandle] at hexplains
  obtain ⟨-, hstored, -⟩ := hexplains
  rcases hrequest with rfl | rfl
  · obtain ⟨infobaseId, huuid, -⟩ := hstored
    exact ⟨infobaseId, huuid⟩
  · obtain ⟨infobaseId, huuid, -⟩ := hstored
    exact ⟨infobaseId, huuid⟩

/-- A creation is answered only if its name is free, and with the new record. -/
theorem created_of_handle_eq_ok
    {info : InfobaseInfo}
    (hhandle : before.handle uuid (.createInfobase info) = .ok (response, after)) :
    response = .infobase { info with uuid := some uuid } ∧
      EndpointRequest.Effect uuid before after (.createInfobase info) := by
  obtain ⟨cluster, hget⟩ := exists_cluster_of_handle_eq_ok hhandle rfl
  cases hname : info.name with
  | none => simp [handle, cluster_of_get? hget, bind, Except.bind, hname] at hhandle
  | some name =>
    cases htaken : cluster.hasName name with
    | true => simp [handle, cluster_of_get? hget, bind, Except.bind, hname, htaken] at hhandle
    | false =>
      rw [handle_createInfobase uuid hget hname htaken] at hhandle
      cases hhandle
      exact ⟨rfl, cluster, name, hname, htaken, replaces_putCluster hget _⟩

/-- A request that renames nothing has its effect when it is answered. -/
theorem effect_of_handle_eq_ok
    {request : EndpointRequest} (hkeeps : request.KeepsNames)
    (hhandle : before.handle uuid request = .ok (response, after)) :
    request.Effect uuid before after := by
  cases request with
  | createInfobase info => exact (created_of_handle_eq_ok hhandle).2
  | updateInfobase patch =>
    obtain ⟨infobaseId, huuid⟩ := exists_uuid_of_handle_eq_ok (.inl rfl) hhandle
    exact ⟨infobaseId, patches_of_handle_eq_ok huuid hkeeps hhandle⟩
  | unregisterInfobase info =>
    obtain ⟨infobaseId, huuid⟩ := exists_uuid_of_handle_eq_ok (.inr rfl) hhandle
    exact ⟨infobaseId, huuid, removes_of_handle_eq_ok huuid hhandle⟩
  | terminateSession session => exact endsSession_of_handle_eq_ok hhandle
  | authenticate auth => exact eq_of_handle_eq_ok rfl hhandle
  | getClusters => exact eq_of_handle_eq_ok rfl hhandle
  | getClusterInfo clusterId => exact eq_of_handle_eq_ok rfl hhandle
  | getSessions clusterId => exact eq_of_handle_eq_ok rfl hhandle
  | getInfobasesShort clusterId => exact eq_of_handle_eq_ok rfl hhandle
  | getInfobaseSessions clusterId infobaseId => exact eq_of_handle_eq_ok rfl hhandle

/-! ## Which clusters there are -/

/-- What no call changes in a cluster: what it says about itself and whom it admits. -/
def Cluster.standing (cluster : Cluster) : ClusterInfo × List Account × List Account :=
  (cluster.summary, cluster.admins, cluster.infobaseUsers)

/-- The same clusters with the same summaries and lists of credentials. -/
structure SameClusters (before after : Store) : Prop where
  standing : ∀ clusterId,
    (after.clusters.get? clusterId).map Cluster.standing =
      (before.clusters.get? clusterId).map Cluster.standing
  agentAdmins : after.agentAdmins = before.agentAdmins

theorem SameClusters.refl (store : Store) : store.SameClusters store :=
  ⟨fun _ => rfl, rfl⟩

theorem Replaces.sameClusters
    {clusterId : String} {old new : Cluster} (h : before.Replaces after clusterId old new)
    (hstanding : Cluster.standing new = Cluster.standing old) : before.SameClusters after where
  standing := by
    intro other
    by_cases hsame : other = clusterId
    · rw [hsame, h.old_stored, h.new_stored]
      exact congrArg some hstanding
    · rw [h.others other hsame]
  agentAdmins := h.agentAdmins

theorem sameClusters_of_effect
    {request : EndpointRequest} (heffect : request.Effect uuid before after) :
    before.SameClusters after := by
  cases request with
  | createInfobase info =>
    obtain ⟨cluster, name, -, -, hreplaces⟩ := heffect
    exact hreplaces.sameClusters rfl
  | updateInfobase patch =>
    obtain ⟨infobaseId, cluster, front, record, back, changed, -, -, -, hreplaces, -⟩ := heffect
    exact hreplaces.sameClusters rfl
  | unregisterInfobase info =>
    obtain ⟨infobaseId, -, cluster, front, record, back, -, -, -, hreplaces⟩ := heffect
    exact hreplaces.sameClusters rfl
  | terminateSession session =>
    obtain ⟨cluster, entry, remaining, -, -, -, hreplaces⟩ := heffect
    exact hreplaces.sameClusters rfl
  | _ =>
    cases heffect
    exact SameClusters.refl _

/-! ## Which infobases there are -/

/-- The infobases of a cluster; a cluster that is not stored has none. -/
def infobasesOf (store : Store) (clusterId : String) : List InfobaseInfo :=
  ((store.clusters.get? clusterId).map Cluster.infobases).getD []

theorem infobaseCount_eq_length (store : Store) (clusterId : String) :
    store.infobaseCount clusterId = (store.infobasesOf clusterId).length := by
  unfold infobaseCount infobasesOf
  cases store.clusters.get? clusterId with
  | none => rfl
  | some cluster => rfl

theorem infobasesOf_of_get?
    {store : Store} {clusterId : String} {cluster : Cluster}
    (hget : store.clusters.get? clusterId = some cluster) :
    store.infobasesOf clusterId = cluster.infobases := by
  rw [infobasesOf, hget]
  rfl

theorem Replaces.infobasesOf_of_ne
    {clusterId : String} {old new : Cluster} (h : before.Replaces after clusterId old new)
    {other : String} (hother : other ≠ clusterId) :
    after.infobasesOf other = before.infobasesOf other := by
  rw [infobasesOf, h.others other hother, infobasesOf]

theorem infobasesOf_putCluster
    (store : Store) (id : String) (cluster : Cluster) (clusterId : String) :
    (store.putCluster id cluster).infobasesOf clusterId =
      if clusterId = id then cluster.infobases else store.infobasesOf clusterId := by
  simp only [infobasesOf, putCluster, Keyed.get?_insert]
  by_cases hsame : clusterId = id
  · rw [if_pos hsame, if_pos hsame]
    rfl
  · rw [if_neg hsame, if_neg hsame]

/-- A cluster that is added has no infobases. -/
theorem infobasesOf_addCluster (store : Store) (id clusterId : String) :
    (store.addCluster id).infobasesOf clusterId = store.infobasesOf clusterId := by
  unfold addCluster
  by_cases hcontains : store.clusters.contains id = true
  · rw [if_pos hcontains]
  · have hnone : store.clusters.get? id = none := by
      simpa [Keyed.contains] using hcontains
    rw [if_neg hcontains, infobasesOf_putCluster]
    by_cases hsame : clusterId = id
    · rw [if_pos hsame, infobasesOf, hsame, hnone]
      rfl
    · rw [if_neg hsame]

theorem infobasesOf_modifyCluster
    (store : Store) (id : String) {change : Cluster → Cluster}
    (hchange : ∀ cluster, (change cluster).infobases = cluster.infobases) (clusterId : String) :
    (store.modifyCluster id change).infobasesOf clusterId = store.infobasesOf clusterId := by
  unfold modifyCluster
  cases hget : store.clusters.get? id with
  | none => rfl
  | some cluster =>
    dsimp only
    rw [infobasesOf_putCluster]
    by_cases hsame : clusterId = id
    · rw [if_pos hsame, hchange, hsame, infobasesOf_of_get? hget]
    · rw [if_neg hsame]

/-! ## How many infobases there are -/

/-- Only the cluster that is replaced has another number of infobases. -/
theorem Replaces.infobaseCount
    {clusterId : String} {old new : Cluster} (h : before.Replaces after clusterId old new)
    (difference : Int)
    (hlength : (new.infobases.length : Int) = old.infobases.length + difference)
    (other : String) :
    (after.infobaseCount other : Int) =
      before.infobaseCount other + if clusterId = other then difference else 0 := by
  simp only [infobaseCount_eq_length]
  by_cases hsame : clusterId = other
  · subst hsame
    rw [infobasesOf_of_get? h.old_stored, infobasesOf_of_get? h.new_stored, if_pos rfl]
    exact hlength
  · rw [h.infobasesOf_of_ne (Ne.symm hsame), if_neg hsame, Int.add_zero]

theorem infobaseCount_of_effect
    {request : EndpointRequest} (heffect : request.Effect uuid before after)
    (clusterId : String) :
    (after.infobaseCount clusterId : Int) =
      before.infobaseCount clusterId + request.change clusterId := by
  cases request with
  | createInfobase info =>
    obtain ⟨cluster, name, -, -, hreplaces⟩ := heffect
    refine hreplaces.infobaseCount 1 ?_ clusterId
    simp [Cluster.append]
  | updateInfobase patch =>
    obtain ⟨infobaseId, cluster, front, record, back, changed, hsplit, -, -, hreplaces, -⟩ :=
      heffect
    have hlength := hreplaces.infobaseCount 0 (by simp [hsplit]) clusterId
    simpa [EndpointRequest.change] using hlength
  | unregisterInfobase info =>
    obtain ⟨infobaseId, -, cluster, front, record, back, hsplit, -, -, hreplaces⟩ := heffect
    refine hreplaces.infobaseCount (-1) ?_ clusterId
    simp only [hsplit, List.length_append, List.length_cons]
    omega
  | terminateSession session =>
    obtain ⟨cluster, entry, remaining, -, -, -, hreplaces⟩ := heffect
    have hlength := hreplaces.infobaseCount 0 (by simp) clusterId
    simpa [EndpointRequest.change] using hlength
  | _ =>
    cases heffect
    simp [EndpointRequest.change]

theorem infobaseCount_addCluster (store : Store) (id clusterId : String) :
    (store.addCluster id).infobaseCount clusterId = store.infobaseCount clusterId := by
  rw [infobaseCount_eq_length, infobasesOf_addCluster, infobaseCount_eq_length]

theorem infobaseCount_modifyCluster
    (store : Store) (id : String) {change : Cluster → Cluster}
    (hchange : ∀ cluster, (change cluster).infobases = cluster.infobases) (clusterId : String) :
    (store.modifyCluster id change).infobaseCount clusterId = store.infobaseCount clusterId := by
  rw [infobaseCount_eq_length, infobasesOf_modifyCluster store id hchange,
    infobaseCount_eq_length]

end Store

/-! ## What lasts -/

/-- A property of stores that nothing ends: neither the answers to requests of a kind nor what is
added from outside. -/
structure Lasting (uuids : Nat → String) (good : EndpointRequest → Prop) (P : Store → Prop) :
    Prop where
  answered : ∀ {n : Nat} {request : EndpointRequest} {response : EndpointResponse}
    {before after : Store}, P before → good request →
      before.handle (uuids n) request = .ok (response, after) → P after
  addCluster : ∀ {store : Store} (id : String), P store → P (store.addCluster id)
  addInfobaseSession : ∀ {store : Store} (clusterId : String) (session : SessionEntry),
    P store → P (store.addInfobaseSession clusterId session)
  addClusterAdmin : ∀ {store : Store} (clusterId : String) (account : Account),
    P store → P (store.addClusterAdmin clusterId account)

end InfobaseGateway
