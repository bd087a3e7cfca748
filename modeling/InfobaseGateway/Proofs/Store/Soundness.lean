import InfobaseGateway.Proofs.Store.Change
import InfobaseGateway.Store.Seed
import Mathlib.Data.List.Nodup

/-!
# Sound stores

A store is sound if everything in it is where it belongs: a cluster under its own id, infobases with
the id of their cluster, a uuid and a name that no other infobase of the cluster has, and sessions
under their own uuids. The service checks names only when an infobase is created, while the record
of an update could overwrite any attribute. Stores stay sound because no request of the gateway
carries a name in an update.
-/

namespace InfobaseGateway

/-! ## Sound clusters -/

/-- Everything in a cluster is where it belongs. -/
structure Cluster.Sound (clusterId : String) (cluster : Cluster) : Prop where
  summary_uuid : cluster.summary.uuid = clusterId
  infobases : ∀ infobase ∈ cluster.infobases,
    infobase.clusterId = clusterId ∧ infobase.uuid ≠ none ∧ infobase.name ≠ none
  names_nodup : (cluster.infobases.map fun infobase => infobase.name).Nodup
  sessions : ∀ sessionId session, cluster.sessions.get? sessionId = some session →
    session.uuid = sessionId

/-- Every cluster of the store is sound. -/
def Store.Sound (store : Store) : Prop :=
  ∀ clusterId cluster, store.clusters.get? clusterId = some cluster → cluster.Sound clusterId

namespace Cluster

theorem hasName_eq_false_iff (cluster : Cluster) (name : String) :
    cluster.hasName name = false ↔
      some name ∉ cluster.infobases.map fun infobase => infobase.name := by
  simp [hasName]

namespace Sound

variable {clusterId : String} {cluster : Cluster}

theorem new (id : String) : (Cluster.new id).Sound id where
  summary_uuid := rfl
  infobases := by
    intro infobase hmem
    cases hmem
  names_nodup := List.nodup_nil
  sessions := by
    intro sessionId session hget
    cases hget

theorem addSession (h : cluster.Sound clusterId) (session : SessionEntry) :
    (cluster.addSession session).Sound clusterId where
  summary_uuid := h.summary_uuid
  infobases := h.infobases
  names_nodup := h.names_nodup
  sessions := by
    intro sessionId other hget
    simp only [Cluster.addSession, Keyed.get?_insert] at hget
    by_cases hsame : sessionId = session.uuid
    · rw [if_pos hsame] at hget
      cases hget
      exact hsame.symm
    · rw [if_neg hsame] at hget
      exact h.sessions sessionId other hget

/-- A new infobase needs a name that is not taken. -/
theorem append
    (h : cluster.Sound clusterId) {infobase : InfobaseInfo} {name : String}
    (hid : infobase.clusterId = clusterId) (huuid : infobase.uuid ≠ none)
    (hname : infobase.name = some name) (hfree : cluster.hasName name = false) :
    (cluster.append infobase).Sound clusterId where
  summary_uuid := h.summary_uuid
  infobases := by
    intro other hother
    rcases List.mem_append.mp hother with hold | hnew
    · exact h.infobases other hold
    · rw [List.mem_singleton.mp hnew]
      exact ⟨hid, huuid, by simp [hname]⟩
  names_nodup := by
    have hnew := (cluster.hasName_eq_false_iff name).mp hfree
    rw [Cluster.append, List.map_append, List.map_singleton, hname]
    refine List.nodup_append.mpr ⟨h.names_nodup, List.nodup_singleton _, ?_⟩
    rintro taken htaken other hother rfl
    rw [List.mem_singleton.mp hother] at htaken
    exact hnew htaken
  sessions := h.sessions

/-- A record may change in place as long as it keeps its cluster, its uuid and its name. -/
theorem replace
    (h : cluster.Sound clusterId) {front back : List InfobaseInfo} {record changed : InfobaseInfo}
    (hsplit : cluster.infobases = front ++ record :: back)
    (hid : changed.clusterId = record.clusterId) (huuid : changed.uuid = record.uuid)
    (hname : changed.name = record.name) :
    Sound clusterId { cluster with infobases := front ++ changed :: back } where
  summary_uuid := h.summary_uuid
  infobases := by
    have hold := h.infobases
    rw [hsplit] at hold
    intro other hother
    rcases List.mem_append.mp hother with hfront | hrest
    · exact hold other (List.mem_append_left _ hfront)
    · rcases List.mem_cons.mp hrest with rfl | hback
      · rw [hid, huuid, hname]
        exact hold record (List.mem_append_right _ List.mem_cons_self)
      · exact hold other (List.mem_append_right _ (List.mem_cons_of_mem _ hback))
  names_nodup := by
    have hnames := h.names_nodup
    rw [hsplit] at hnames
    simpa [hname] using hnames
  sessions := h.sessions

theorem remove
    (h : cluster.Sound clusterId) {front back : List InfobaseInfo} {record : InfobaseInfo}
    (hsplit : cluster.infobases = front ++ record :: back) :
    Sound clusterId { cluster with infobases := front ++ back } where
  summary_uuid := h.summary_uuid
  infobases := by
    intro other hother
    apply h.infobases
    rw [hsplit]
    rcases List.mem_append.mp hother with hfront | hback
    · exact List.mem_append_left _ hfront
    · exact List.mem_append_right _ (List.mem_cons_of_mem _ hback)
  names_nodup := by
    have hnames := h.names_nodup
    rw [hsplit] at hnames
    refine hnames.sublist (List.Sublist.map _ ?_)
    exact List.Sublist.append_left (List.sublist_cons_self record back) front
  sessions := h.sessions

theorem endSession
    (h : cluster.Sound clusterId) {sessionId : String} {remaining : Keyed SessionEntry}
    (hgone : remaining.get? sessionId = none)
    (hothers : ∀ other, other ≠ sessionId → remaining.get? other = cluster.sessions.get? other) :
    Sound clusterId { cluster with sessions := remaining } where
  summary_uuid := h.summary_uuid
  infobases := h.infobases
  names_nodup := h.names_nodup
  sessions := by
    intro other session hget
    by_cases hsame : other = sessionId
    · rw [hsame, hgone] at hget
      cases hget
    · rw [hothers other hsame] at hget
      exact h.sessions other session hget

end Sound

end Cluster

/-! ## Sound stores -/

namespace Store

variable {before after : Store} {uuid : String}

theorem Sound.of_replaces
    (hsound : before.Sound) {clusterId : String} {old new : Cluster}
    (h : before.Replaces after clusterId old new) (hnew : new.Sound clusterId) :
    after.Sound := by
  intro other cluster hget
  by_cases hsame : other = clusterId
  · subst hsame
    cases h.new_stored.symm.trans hget
    exact hnew
  · rw [h.others other hsame] at hget
    exact hsound other cluster hget

theorem Sound.putCluster
    {store : Store} (hsound : store.Sound) {clusterId : String} {cluster : Cluster}
    (hcluster : cluster.Sound clusterId) : (store.putCluster clusterId cluster).Sound := by
  intro other found hget
  simp only [Store.putCluster, Keyed.get?_insert] at hget
  by_cases hsame : other = clusterId
  · rw [if_pos hsame] at hget
    cases hget
    rw [hsame]
    exact hcluster
  · rw [if_neg hsame] at hget
    exact hsound other found hget

/-- Requests that rename nothing keep a store sound. -/
theorem Sound.of_effect
    (hsound : before.Sound) {request : EndpointRequest}
    (heffect : request.Effect uuid before after) : after.Sound := by
  cases request with
  | createInfobase info =>
    obtain ⟨cluster, name, hname, hfree, hreplaces⟩ := heffect
    have hcluster := hsound _ _ hreplaces.old_stored
    refine hsound.of_replaces hreplaces (hcluster.append rfl ?_ hname hfree)
    simp
  | updateInfobase patch =>
    obtain ⟨infobaseId, cluster, front, record, back, changed, hsplit, -, -, hreplaces, hid,
      huuid, hname, -⟩ := heffect
    have hcluster := hsound _ _ hreplaces.old_stored
    exact hsound.of_replaces hreplaces (hcluster.replace hsplit hid huuid hname)
  | unregisterInfobase info =>
    obtain ⟨infobaseId, -, cluster, front, record, back, hsplit, -, -, hreplaces⟩ := heffect
    have hcluster := hsound _ _ hreplaces.old_stored
    exact hsound.of_replaces hreplaces (hcluster.remove hsplit)
  | terminateSession session =>
    obtain ⟨cluster, entry, remaining, -, hgone, hothers, hreplaces⟩ := heffect
    have hcluster := hsound _ _ hreplaces.old_stored
    exact hsound.of_replaces hreplaces (hcluster.endSession hgone hothers)
  | _ =>
    cases heffect
    exact hsound

theorem Sound.addCluster {store : Store} (hsound : store.Sound) (id : String) :
    (store.addCluster id).Sound := by
  unfold Store.addCluster
  by_cases hcontains : store.clusters.contains id = true
  · rw [if_pos hcontains]
    exact hsound
  · rw [if_neg hcontains]
    exact hsound.putCluster (.new id)

theorem Sound.modifyCluster
    {store : Store} (hsound : store.Sound) {clusterId : String} {change : Cluster → Cluster}
    (hchange : ∀ cluster, cluster.Sound clusterId → (change cluster).Sound clusterId) :
    (store.modifyCluster clusterId change).Sound := by
  unfold Store.modifyCluster
  cases hget : store.clusters.get? clusterId with
  | none => exact hsound
  | some cluster => exact hsound.putCluster (hchange cluster (hsound clusterId cluster hget))

theorem Sound.addInfobaseSession
    {store : Store} (hsound : store.Sound) (clusterId : String) (session : SessionEntry) :
    (store.addInfobaseSession clusterId session).Sound :=
  hsound.modifyCluster fun _ hcluster => hcluster.addSession session

theorem Sound.addClusterAdmin
    {store : Store} (hsound : store.Sound) (clusterId : String) (account : Account) :
    (store.addClusterAdmin clusterId account).Sound := by
  refine hsound.modifyCluster fun cluster hcluster => ?_
  exact ⟨hcluster.summary_uuid, hcluster.infobases, hcluster.names_nodup, hcluster.sessions⟩

/-- Soundness lasts as long as nothing is renamed. -/
theorem lasting_sound (uuids : Nat → String) :
    Lasting uuids EndpointRequest.KeepsNames Store.Sound where
  answered := by
    intro n request response before after hsound hkeeps hhandle
    exact hsound.of_effect (effect_of_handle_eq_ok hkeeps hhandle)
  addCluster := fun id hsound => hsound.addCluster id
  addInfobaseSession := fun clusterId session hsound =>
    hsound.addInfobaseSession clusterId session
  addClusterAdmin := fun clusterId account hsound => hsound.addClusterAdmin clusterId account

end Store

/-! ## Configured stores -/

namespace ClusterSeed

/-- The sessions of a configured cluster are put under their own uuids one by one. -/
theorem sound_start (seed : ClusterSeed) : seed.start.Sound seed.id where
  summary_uuid := rfl
  infobases := by
    intro infobase hmem
    cases hmem
  names_nodup := List.nodup_nil
  sessions := by
    have hfold (ids : List String) (sessions : Keyed SessionEntry)
        (hsessions : ∀ sessionId session, sessions.get? sessionId = some session →
          session.uuid = sessionId) :
        ∀ sessionId session,
          (ids.foldl (fun sessions id => sessions.insert id (SessionEntry.unbound id))
            sessions).get? sessionId = some session → session.uuid = sessionId := by
      induction ids generalizing sessions with
      | nil => exact hsessions
      | cons id ids ih =>
        apply ih
        intro sessionId session hget
        rw [Keyed.get?_insert] at hget
        by_cases hsame : sessionId = id
        · rw [if_pos hsame] at hget
          cases hget
          exact hsame.symm
        · rw [if_neg hsame] at hget
          exact hsessions sessionId session hget
    refine hfold seed.sessions Keyed.empty ?_
    intro sessionId session hget
    cases hget

theorem sound_of_addInfobases
    {uuids : Nat → String} {seeds : List InfobaseSeed} {cluster final : Cluster}
    {clusterId : String}
    {issued issued' : Nat} (hsound : cluster.Sound clusterId)
    (hadd : addInfobases uuids seeds cluster issued = .ok (final, issued')) :
    final.Sound clusterId := by
  induction seeds generalizing cluster issued with
  | nil =>
    cases hadd
    exact hsound
  | cons seed seeds ih =>
    simp only [addInfobases] at hadd
    split at hadd
    · cases hadd
    · next hfree =>
      refine ih (hsound.append ?_ ?_ rfl (Bool.eq_false_iff.mpr hfree)) hadd
      · exact hsound.summary_uuid
      · simp [InfobaseSeed.info]

end ClusterSeed

namespace Service

theorem sound_of_addClusters
    {uuids : Nat → String} {seeds : List ClusterSeed} {service final : Service}
    (hsound : service.store.Sound) (hadd : addClusters uuids seeds service = .ok final) :
    final.store.Sound := by
  induction seeds generalizing service with
  | nil =>
    cases hadd
    exact hsound
  | cons seed seeds ih =>
    simp only [addClusters, bind, Except.bind] at hadd
    split at hadd
    · cases hadd
    · next added hinfobases =>
      split at hadd
      · cases hadd
      · have hcluster := ClusterSeed.sound_of_addInfobases seed.sound_start hinfobases
        exact ih (hsound.putCluster hcluster) hadd

/-- Every configuration that is accepted gives a sound store. -/
theorem sound_of_ofSeed
    {uuids : Nat → String} {seed : StoreSeed} {service : Service}
    (hseed : ofSeed uuids seed = .ok service) : service.store.Sound := by
  refine sound_of_addClusters ?_ hseed
  intro clusterId cluster hget
  cases hget

/-- A service with one cluster, in which there is nothing yet. -/
def withCluster (id : String) : Service :=
  ⟨⟨Keyed.empty.insert id (Cluster.new id), []⟩, 0⟩

theorem ofSeed_withCluster (uuids : Nat → String) (id : String) :
    ofSeed uuids ⟨[⟨id, none, none, none, [], [], [], []⟩], []⟩ = .ok (withCluster id) :=
  rfl

end Service

end InfobaseGateway
