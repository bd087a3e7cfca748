import InfobaseGateway.Proofs.Store.Answers
import Mathlib.Data.List.Basic

/-!
# What a request does to a store

Every request that changes the store changes one cluster, and in it one infobase or one session: it
appends a record, patches the first record of a uuid in its place, takes that record out of the
list, or removes a session. Everything else stays as it was and where it was.
-/

namespace InfobaseGateway

/-! ## Attributes by name -/

/-- The names of the attributes of an infobase. -/
inductive AttributeName
  | name
  | dbms
  | dbServer
  | dbName
  | dbUser
  | dbPassword
  | locale
  | dateOffset
  | description
  | securityLevel
  | sessionsDeny
  | scheduledJobsDeny
  | deniedFrom
  | deniedTo
  | deniedMessage
  | permissionCode
  | licenseDistribution
  deriving DecidableEq

@[reducible]
def AttributeName.Value : AttributeName → Type
  | name | dbServer | dbName | dbUser | dbPassword | locale | description | deniedMessage
  | permissionCode => String
  | dbms => DbmsKind
  | dateOffset => Int32
  | securityLevel | licenseDistribution => UInt32
  | sessionsDeny | scheduledJobsDeny => Bool
  | deniedFrom | deniedTo => Instant

namespace Attributes

def get? (attributes : Attributes) : (key : AttributeName) → Option key.Value
  | .name => attributes.name
  | .dbms => attributes.dbms
  | .dbServer => attributes.dbServer
  | .dbName => attributes.dbName
  | .dbUser => attributes.dbUser
  | .dbPassword => attributes.dbPassword
  | .locale => attributes.locale
  | .dateOffset => attributes.dateOffset
  | .description => attributes.description
  | .securityLevel => attributes.securityLevel
  | .sessionsDeny => attributes.sessionsDeny
  | .scheduledJobsDeny => attributes.scheduledJobsDeny
  | .deniedFrom => attributes.deniedFrom
  | .deniedTo => attributes.deniedTo
  | .deniedMessage => attributes.deniedMessage
  | .permissionCode => attributes.permissionCode
  | .licenseDistribution => attributes.licenseDistribution

/-- A patch decides about the attributes that it carries and about no other. -/
theorem get?_over (patch base : Attributes) (key : AttributeName) :
    (patch.over base).get? key = (patch.get? key <|> base.get? key) := by
  cases key with
  | _ => rfl

end Attributes

/-! ## Changes of a store -/

namespace Store

/-- One cluster of the store is replaced, and nothing else changes. -/
structure Replaces (before after : Store) (clusterId : String) (old new : Cluster) : Prop where
  old_stored : before.clusters.get? clusterId = some old
  new_stored : after.clusters.get? clusterId = some new
  others : ∀ other, other ≠ clusterId → after.clusters.get? other = before.clusters.get? other
  agentAdmins : after.agentAdmins = before.agentAdmins

/-- A record is appended to the infobases of a cluster. -/
def Appends (before after : Store) (clusterId : String) (record : InfobaseInfo) : Prop :=
  ∃ old, Replaces before after clusterId old
    { old with infobases := old.infobases ++ [record] }

/-- The first record of a cluster with the given uuid is changed in its place. Each of its
attributes has the value that the patch carries, or the one it had; its cluster, its uuid and its
name are the same. -/
def Patches (before after : Store) (clusterId infobaseId : String) (patch : Attributes) : Prop :=
  ∃ old front record back changed,
    old.infobases = front ++ record :: back ∧
      record.uuid = some infobaseId ∧ (∀ other ∈ front, other.uuid ≠ some infobaseId) ∧
      Replaces before after clusterId old { old with infobases := front ++ changed :: back } ∧
      changed.clusterId = record.clusterId ∧ changed.uuid = record.uuid ∧
      changed.name = record.name ∧
      ∀ key, changed.toAttributes.get? key =
        (patch.get? key <|> record.toAttributes.get? key)

/-- The first record of a cluster with the given uuid is removed; the others keep their order. -/
def Removes (before after : Store) (clusterId infobaseId : String) : Prop :=
  ∃ old front record back,
    old.infobases = front ++ record :: back ∧
      record.uuid = some infobaseId ∧ (∀ other ∈ front, other.uuid ≠ some infobaseId) ∧
      Replaces before after clusterId old { old with infobases := front ++ back }

/-- A session of a cluster is removed, and the others stay. -/
def EndsSession (before after : Store) (clusterId sessionId : String) : Prop :=
  ∃ old session remaining,
    old.sessions.get? sessionId = some session ∧
      Keyed.get? remaining sessionId = none ∧
      (∀ other, other ≠ sessionId → remaining.get? other = old.sessions.get? other) ∧
      Replaces before after clusterId old { old with sessions := remaining }

theorem replaces_putCluster
    {store : Store} {clusterId : String} {old : Cluster}
    (hget : store.clusters.get? clusterId = some old) (new : Cluster) :
    Replaces store (store.putCluster clusterId new) clusterId old new where
  old_stored := hget
  new_stored := by simp [putCluster]
  others := by
    intro other hother
    simp [putCluster, hother]
  agentAdmins := rfl

end Store

namespace Cluster

/-- The first record of a uuid splits the list of infobases. -/
theorem split_of_infobase?
    {cluster : Cluster} {uuid : String} {record : InfobaseInfo}
    (hfound : cluster.infobase? (some uuid) = some record) :
    ∃ front back, cluster.infobases = front ++ record :: back ∧ record.uuid = some uuid ∧
      ∀ other ∈ front, other.uuid ≠ some uuid := by
  obtain ⟨huuid, front, back, hsplit, hfront⟩ := List.find?_eq_some_iff_append.mp hfound
  simp only [Bool.and_eq_true, decide_eq_true_eq] at huuid
  refine ⟨front, back, hsplit, huuid.2, ?_⟩
  intro other hother hsame
  have hno := hfront other hother
  simp [hsame] at hno

theorem modifyFirst_append
    {uuid : String} {front : List InfobaseInfo} {record : InfobaseInfo}
    (back : List InfobaseInfo) (change : InfobaseInfo → InfobaseInfo)
    (hfront : ∀ other ∈ front, other.uuid ≠ some uuid) (huuid : record.uuid = some uuid) :
    modifyFirst (some uuid) change (front ++ record :: back) =
      front ++ change record :: back := by
  induction front with
  | nil => simp [modifyFirst, huuid]
  | cons first front ih =>
    have hfirst := hfront first List.mem_cons_self
    have hrest := ih fun other hother => hfront other (List.mem_cons_of_mem first hother)
    simp [modifyFirst, hfirst, hrest]

theorem eraseP_append
    {uuid : String} {front : List InfobaseInfo} {record : InfobaseInfo}
    (back : List InfobaseInfo)
    (hfront : ∀ other ∈ front, other.uuid ≠ some uuid) (huuid : record.uuid = some uuid) :
    ((front ++ record :: back).eraseP fun infobase =>
      infobase.uuid.isSome && infobase.uuid = some uuid) = front ++ back := by
  rw [List.eraseP_append_right]
  · simp [huuid]
  · intro other hother
    simp [hfront other hother]

end Cluster

/-! ## The effect of an answered request -/

namespace Store

variable {before after : Store} {uuid : String} {response : EndpointResponse}

/-- A request that is answered has its cluster in the store. -/
theorem exists_cluster_of_handle_eq_ok
    {request : EndpointRequest} (hhandle : before.handle uuid request = .ok (response, after))
    {clusterId : String} (hid : request.clusterId? = some clusterId) :
    ∃ cluster, before.clusters.get? clusterId = some cluster := by
  have hexplains := before.explains_handle uuid request
  rw [hhandle] at hexplains
  exact EndpointRequest.hasCluster_of_targetStored hexplains.2.1 hid

/-- A request that does not change the state leaves the store alone. -/
theorem eq_of_handle_eq_ok
    {request : EndpointRequest} (hreads : request.changesState = false)
    (hhandle : before.handle uuid request = .ok (response, after)) : after = before := by
  cases request with
  | authenticate auth =>
    simp only [handle, bind, Except.bind] at hhandle
    cases haccounts : before.accounts auth.scope with
    | error rejection => simp [haccounts] at hhandle
    | ok accounts =>
      simp only [haccounts] at hhandle
      split at hhandle
      · cases hhandle
        rfl
      · cases hhandle
  | getClusters =>
    cases hhandle
    rfl
  | getClusterInfo clusterId | getSessions clusterId | getInfobasesShort clusterId =>
    obtain ⟨cluster, hget⟩ := exists_cluster_of_handle_eq_ok hhandle rfl
    simp only [handle, cluster_of_get? hget, bind, Except.bind] at hhandle
    cases hhandle
    rfl
  | getInfobaseSessions clusterId infobaseId =>
    obtain ⟨cluster, hget⟩ := exists_cluster_of_handle_eq_ok hhandle rfl
    simp only [handle, cluster_of_get? hget, bind, Except.bind] at hhandle
    cases hinfobase : cluster.infobase? (some infobaseId) with
    | none => simp [hinfobase] at hhandle
    | some infobase =>
      simp only [hinfobase] at hhandle
      cases hhandle
      rfl
  | createInfobase info | updateInfobase info | unregisterInfobase info => cases hreads
  | terminateSession session => cases hreads

theorem appends_of_handle_eq_ok
    {info : InfobaseInfo}
    (hhandle : before.handle uuid (.createInfobase info) = .ok (response, after)) :
    Appends before after info.clusterId { info with uuid := some uuid } := by
  obtain ⟨cluster, hget⟩ := exists_cluster_of_handle_eq_ok hhandle rfl
  simp only [handle, cluster_of_get? hget, bind, Except.bind] at hhandle
  cases hname : info.name with
  | none => simp [hname] at hhandle
  | some name =>
    simp only [hname] at hhandle
    split at hhandle
    · cases hhandle
    · cases hhandle
      exact ⟨cluster, replaces_putCluster hget _⟩

theorem patches_of_handle_eq_ok
    {patch : InfobaseInfo} {infobaseId : String}
    (huuid : patch.uuid = some infobaseId) (hname : patch.name = none)
    (hhandle : before.handle uuid (.updateInfobase patch) = .ok (response, after)) :
    Patches before after patch.clusterId infobaseId patch.toAttributes := by
  obtain ⟨cluster, hget⟩ := exists_cluster_of_handle_eq_ok hhandle rfl
  simp only [handle, cluster_of_get? hget, bind, Except.bind, huuid] at hhandle
  cases hinfobase : cluster.infobase? (some infobaseId) with
  | none => simp [hinfobase] at hhandle
  | some record =>
    simp only [hinfobase] at hhandle
    cases hhandle
    obtain ⟨front, back, hsplit, hrecord, hfront⟩ := Cluster.split_of_infobase? hinfobase
    refine ⟨cluster, front, record, back, record.patchedBy patch, hsplit, hrecord, hfront, ?_,
      rfl, rfl, ?_, fun key => Attributes.get?_over _ _ key⟩
    · have hmodified := Cluster.modifyFirst_append back
        (fun infobase => infobase.patchedBy patch) hfront hrecord
      rw [← hmodified, ← hsplit]
      exact replaces_putCluster hget _
    · show (patch.name <|> record.name) = record.name
      rw [hname]
      rfl

theorem removes_of_handle_eq_ok
    {info : InfobaseInfo} {infobaseId : String} (huuid : info.uuid = some infobaseId)
    (hhandle : before.handle uuid (.unregisterInfobase info) = .ok (response, after)) :
    Removes before after info.clusterId infobaseId := by
  obtain ⟨cluster, hget⟩ := exists_cluster_of_handle_eq_ok hhandle rfl
  simp only [handle, cluster_of_get? hget, bind, Except.bind, huuid] at hhandle
  cases hinfobase : cluster.infobase? (some infobaseId) with
  | none => simp [hinfobase] at hhandle
  | some record =>
    simp only [hinfobase] at hhandle
    cases hhandle
    obtain ⟨front, back, hsplit, hrecord, hfront⟩ := Cluster.split_of_infobase? hinfobase
    refine ⟨cluster, front, record, back, hsplit, hrecord, hfront, ?_⟩
    have herased := Cluster.eraseP_append back hfront hrecord
    rw [← herased, ← hsplit]
    exact replaces_putCluster hget _

theorem endsSession_of_handle_eq_ok
    {session : SessionInfo}
    (hhandle : before.handle uuid (.terminateSession session) = .ok (response, after)) :
    EndsSession before after session.clusterId session.uuid := by
  obtain ⟨cluster, hget⟩ := exists_cluster_of_handle_eq_ok hhandle rfl
  simp only [handle, cluster_of_get? hget, bind, Except.bind] at hhandle
  split at hhandle
  · next hcontains =>
    cases hhandle
    obtain ⟨entry, hentry⟩ := Option.isSome_iff_exists.mp hcontains
    refine ⟨cluster, entry, cluster.sessions.erase session.uuid, hentry, by simp, ?_,
      replaces_putCluster hget _⟩
    intro other hother
    simp [hother]
  · cases hhandle

end Store

end InfobaseGateway
