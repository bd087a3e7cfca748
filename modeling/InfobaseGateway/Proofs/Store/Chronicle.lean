import InfobaseGateway.Proofs.Store.Seeding
import InfobaseGateway.Proofs.Store.Soundness

/-!
# The chronicle of a cluster

What happens in a cluster can be written down in its order, deed by deed: that it was added, which
sessions came and were terminated, which infobases were created and removed. The chronicle alone
says what is in the cluster in the end, and the store follows it: through every request that is
answered, through everything that is added from outside, and from the configuration on.
-/

namespace InfobaseGateway

/-! ## Deeds -/

/-- What tells an infobase from the others of its cluster. -/
structure InfobaseIdentity where
  uuid : String
  name : String
  deriving DecidableEq

def InfobaseInfo.identity (info : InfobaseInfo) : InfobaseIdentity :=
  ⟨info.uuid.getD "", info.name.getD ""⟩

def InfobaseShort.identity (infobase : InfobaseShort) : InfobaseIdentity :=
  ⟨infobase.uuid, infobase.name⟩

/-- What can happen in a cluster. -/
inductive Deed
  /-- The cluster is added. If it was there before, this changes nothing. -/
  | opens (summary : ClusterInfo)
  /-- A session is added, in place of the one with its uuid. -/
  | admits (session : SessionEntry)
  /-- A session is terminated. -/
  | ends (sessionId : String)
  | creates (infobase : InfobaseIdentity)
  | removes (infobase : InfobaseIdentity)
  deriving DecidableEq

namespace Deed

def opening? : Deed → Option ClusterInfo
  | opens summary => some summary
  | _ => none

/-- What the cluster says about itself since it was first added. -/
def summary? (deeds : List Deed) : Option ClusterInfo :=
  deeds.findSome? opening?

/-- The deed replaces or terminates the session with the given uuid. -/
def Settles (sessionId : String) : Deed → Prop
  | admits session => session.uuid = sessionId
  | ends other => other = sessionId
  | _ => False

/-- The session was added when the cluster was there, and it was neither replaced nor terminated
since then. -/
def Lasts (session : SessionEntry) (deeds : List Deed) : Prop :=
  ∃ earlier later, deeds = earlier ++ admits session :: later ∧ summary? earlier ≠ none ∧
    ∀ deed ∈ later, ¬deed.Settles session.uuid

/-- The infobases that were created and not removed since then, in the order of their creations. -/
def survivors : List Deed → List InfobaseIdentity
  | [] => []
  | creates infobase :: later =>
    if removes infobase ∈ later then survivors later else infobase :: survivors later
  | _ :: later => survivors later

/-- The infobases of a cluster after a deed. -/
def apply (infobases : List InfobaseIdentity) : Deed → List InfobaseIdentity
  | creates infobase => infobases ++ [infobase]
  | removes infobase => infobases.filter fun other => other ≠ infobase
  | _ => infobases

/-! ## One more deed -/

section Concat

variable (deeds : List Deed)

theorem summary?_concat (deed : Deed) :
    summary? (deeds ++ [deed]) = (summary? deeds).or deed.opening? := by
  rw [summary?, summary?, List.findSome?_append, List.findSome?_singleton]

theorem lasts_concat_iff (session : SessionEntry) (deed : Deed) :
    Lasts session (deeds ++ [deed]) ↔
      (deed = admits session ∧ summary? deeds ≠ none) ∨
        (Lasts session deeds ∧ ¬deed.Settles session.uuid) := by
  constructor
  · rintro ⟨earlier, later, hsplit, hopen, hlater⟩
    rcases List.eq_nil_or_concat later with rfl | ⟨later, last, rfl⟩
    · obtain ⟨rfl, hlast⟩ := List.append_inj' hsplit rfl
      cases hlast
      exact .inl ⟨rfl, hopen⟩
    · have hsplit' : deeds ++ [deed] = (earlier ++ admits session :: later) ++ [last] := by
        simpa using hsplit
      obtain ⟨hdeeds, hlast⟩ := List.append_inj' hsplit' rfl
      cases hlast
      refine .inr ⟨⟨earlier, later, hdeeds, hopen, fun other hother => ?_⟩, hlater deed (by simp)⟩
      exact hlater other (by simp [hother])
  · rintro (⟨rfl, hopen⟩ | ⟨⟨earlier, later, rfl, hopen, hlater⟩, hdeed⟩)
    · exact ⟨deeds, [], rfl, hopen, fun other hother => absurd hother List.not_mem_nil⟩
    · refine ⟨earlier, later ++ [deed], by simp, hopen, fun other hother => ?_⟩
      rcases List.mem_append.mp hother with hother | hother
      · exact hlater other hother
      · rw [List.mem_singleton.mp hother]
        exact hdeed

/-- A deed that concerns no session ends none. -/
theorem lasts_concat_of_not_settles
    (session : SessionEntry) {deed : Deed} (hdeed : ∀ sessionId, ¬deed.Settles sessionId) :
    Lasts session (deeds ++ [deed]) ↔ Lasts session deeds := by
  rw [lasts_concat_iff]
  constructor
  · rintro (⟨rfl, -⟩ | ⟨hlasts, -⟩)
    · exact absurd rfl (hdeed session.uuid)
    · exact hlasts
  · intro hlasts
    exact .inr ⟨hlasts, hdeed session.uuid⟩

theorem survivors_concat (deed : Deed) :
    survivors (deeds ++ [deed]) = deed.apply (survivors deeds) := by
  induction deeds with
  | nil =>
    cases deed with
    | _ => rfl
  | cons other deeds ih =>
    cases other with
    | creates infobase =>
      simp only [List.cons_append, survivors, ih, List.mem_append, List.mem_singleton]
      by_cases hremoved : removes infobase ∈ deeds
      · rw [if_pos (.inl hremoved), if_pos hremoved]
      · by_cases hdeed : removes infobase = deed
        · subst hdeed
          simp [hremoved, apply]
        · rw [if_neg (by simp [hremoved, hdeed]), if_neg hremoved]
          cases deed with
          | removes later =>
            have hother : infobase ≠ later := fun hsame => hdeed (congrArg removes hsame)
            exact (List.filter_cons_of_pos (by simpa using hother)).symm
          | _ => rfl
    | _ => exact ih

end Concat

end Deed

/-! ## Stores that follow a chronicle -/

namespace Store

/-- The sessions of a cluster; a cluster that is not stored has none. -/
def sessionsOf (store : Store) (clusterId : String) : Keyed SessionEntry :=
  ((store.clusters.get? clusterId).map Cluster.sessions).getD .empty

/-- The store has in a cluster what its chronicle says. -/
structure Follows (store : Store) (clusterId : String) (deeds : List Deed) : Prop where
  summary : (store.clusters.get? clusterId).map (fun cluster => cluster.summary) =
    Deed.summary? deeds
  session : ∀ session, (store.sessionsOf clusterId).get? session.uuid = some session ↔
    Deed.Lasts session deeds
  infobases : (store.infobasesOf clusterId).map (fun infobase => infobase.identity) =
    Deed.survivors deeds

variable {store before after : Store} {clusterId : String} {deeds : List Deed}

theorem sessionsOf_of_get?
    {cluster : Cluster} (hget : store.clusters.get? clusterId = some cluster) :
    store.sessionsOf clusterId = cluster.sessions := by
  rw [sessionsOf, hget]
  rfl

namespace Follows

theorem of_get?_eq
    (h : before.Follows clusterId deeds)
    (hget : after.clusters.get? clusterId = before.clusters.get? clusterId) :
    after.Follows clusterId deeds where
  summary := by
    rw [hget]
    exact h.summary
  session := by
    intro session
    rw [sessionsOf, hget]
    exact h.session session
  infobases := by
    rw [infobasesOf, hget]
    exact h.infobases

/-- A cluster that is replaced by one with the same sessions and summary. -/
theorem of_replaces
    (h : before.Follows clusterId deeds) {old new : Cluster}
    (hreplaces : before.Replaces after clusterId old new)
    (hsummary : new.summary = old.summary) (hsessions : new.sessions = old.sessions)
    {deeds' : List Deed} (hopens : Deed.summary? deeds' = Deed.summary? deeds)
    (hlasts : ∀ session, Deed.Lasts session deeds' ↔ Deed.Lasts session deeds)
    (hinfobases : new.infobases.map (fun infobase => infobase.identity) = Deed.survivors deeds') :
    after.Follows clusterId deeds' where
  summary := by
    rw [hopens, ← h.summary, hreplaces.old_stored, hreplaces.new_stored]
    exact congrArg some hsummary
  session := by
    intro session
    rw [hlasts, ← h.session, sessionsOf_of_get? hreplaces.old_stored,
      sessionsOf_of_get? hreplaces.new_stored, hsessions]
  infobases := by
    rw [infobasesOf_of_get? hreplaces.new_stored]
    exact hinfobases

theorem infobases_of_get?
    (h : store.Follows clusterId deeds) {cluster : Cluster}
    (hget : store.clusters.get? clusterId = some cluster) :
    cluster.infobases.map (fun infobase => infobase.identity) = Deed.survivors deeds := by
  rw [← h.infobases, infobasesOf_of_get? hget]

theorem summary?_eq_none_iff (h : store.Follows clusterId deeds) :
    Deed.summary? deeds = none ↔ store.clusters.get? clusterId = none := by
  rw [← h.summary, Option.map_eq_none_iff]

end Follows

end Store

/-- The infobases of a sound cluster are listed under different names. -/
theorem Cluster.Sound.shortNames_nodup
    {clusterId : String} {cluster : Cluster} (hsound : cluster.Sound clusterId) :
    (cluster.infobases.map fun infobase => infobase.short.name).Nodup := by
  refine List.Nodup.of_map some ?_
  have hnames :
      (cluster.infobases.map fun infobase => infobase.short.name).map some =
        cluster.infobases.map fun infobase => infobase.name := by
    rw [List.map_map]
    refine List.map_congr_left fun infobase hmem => ?_
    obtain ⟨name, hname⟩ := Option.ne_none_iff_exists'.mp (hsound.infobases infobase hmem).2.2
    simp [InfobaseInfo.short, hname]
  rw [hnames]
  exact hsound.names_nodup

theorem Cluster.Sound.identities_nodup
    {clusterId : String} {cluster : Cluster} (hsound : cluster.Sound clusterId) :
    (cluster.infobases.map fun infobase => infobase.identity).Nodup := by
  refine List.Nodup.of_map InfobaseIdentity.name ?_
  rw [List.map_map]
  exact hsound.shortNames_nodup

/-! ### Requests that are answered -/

/-- What a request makes happen in a cluster when it is answered. -/
def EndpointRequest.deed? (clusterId : String) : EndpointRequest → EndpointResponse → Option Deed
  | createInfobase info, .infobase created =>
    if info.clusterId = clusterId then some (.creates created.identity) else none
  | unregisterInfobase info, .infobase removed =>
    if info.clusterId = clusterId then some (.removes removed.identity) else none
  | terminateSession session, _ =>
    if session.clusterId = clusterId then some (.ends session.uuid) else none
  | _, _ => none

namespace Store

variable {before after : Store} {clusterId uuid : String} {deeds : List Deed}
  {response : EndpointResponse}

/-- A removal is answered with the record that is taken out of the list. -/
theorem removed_of_handle_eq_ok
    {info : InfobaseInfo}
    (hhandle : before.handle uuid (.unregisterInfobase info) = .ok (response, after)) :
    ∃ cluster front record back, response = .infobase record ∧
      cluster.infobases = front ++ record :: back ∧
      before.Replaces after info.clusterId cluster { cluster with infobases := front ++ back } := by
  obtain ⟨cluster, hget⟩ := exists_cluster_of_handle_eq_ok hhandle rfl
  obtain ⟨infobaseId, huuid⟩ := exists_uuid_of_handle_eq_ok (.inr rfl) hhandle
  simp only [handle, cluster_of_get? hget, bind, Except.bind, huuid] at hhandle
  cases hinfobase : cluster.infobase? (some infobaseId) with
  | none => simp [hinfobase] at hhandle
  | some record =>
    simp only [hinfobase] at hhandle
    cases hhandle
    obtain ⟨front, back, hsplit, hrecord, hfront⟩ := Cluster.split_of_infobase? hinfobase
    refine ⟨cluster, front, record, back, rfl, hsplit, ?_⟩
    have herased := Cluster.eraseP_append back hfront hrecord
    rw [← herased, ← hsplit]
    exact replaces_putCluster hget _

namespace Follows

theorem created
    (h : before.Follows clusterId deeds) {cluster : Cluster} {record : InfobaseInfo}
    (hreplaces : before.Replaces after clusterId cluster (cluster.append record)) :
    after.Follows clusterId (deeds ++ [.creates record.identity]) := by
  refine h.of_replaces hreplaces rfl rfl ?_ (fun session => ?_) ?_
  · rw [Deed.summary?_concat]
    exact Option.or_none
  · exact Deed.lasts_concat_of_not_settles deeds session fun _ => id
  · rw [Deed.survivors_concat, Deed.apply, ← h.infobases_of_get? hreplaces.old_stored,
      Cluster.append, List.map_append, List.map_singleton]

theorem removed
    (h : before.Follows clusterId deeds) (hsound : before.Sound) {cluster : Cluster}
    {front back : List InfobaseInfo} {record : InfobaseInfo}
    (hsplit : cluster.infobases = front ++ record :: back)
    (hreplaces : before.Replaces after clusterId cluster
      { cluster with infobases := front ++ back }) :
    after.Follows clusterId (deeds ++ [.removes record.identity]) := by
  refine h.of_replaces hreplaces rfl rfl ?_ (fun session => ?_) ?_
  · rw [Deed.summary?_concat]
    exact Option.or_none
  · exact Deed.lasts_concat_of_not_settles deeds session fun _ => id
  · -- No other infobase of the cluster has this identity.
    have hnodup := (hsound clusterId cluster hreplaces.old_stored).identities_nodup
    rw [hsplit, List.map_append, List.map_cons, List.nodup_middle, List.nodup_cons] at hnodup
    have hothers : ∀ other ∈ front.map (fun infobase => infobase.identity) ++
        back.map (fun infobase => infobase.identity), other ≠ record.identity := by
      rintro other hother rfl
      exact hnodup.1 hother
    rw [Deed.survivors_concat, Deed.apply, ← h.infobases_of_get? hreplaces.old_stored, hsplit,
      List.map_append, List.map_append, List.map_cons, List.filter_append,
      List.filter_cons_of_neg (by simp), ← List.filter_append]
    exact (List.filter_eq_self.mpr fun other hother => by simpa using hothers other hother).symm

theorem updated
    (h : before.Follows clusterId deeds) {infobaseId : String} {patch : Attributes}
    (hpatches : before.Patches after clusterId infobaseId patch) :
    after.Follows clusterId deeds := by
  obtain ⟨cluster, front, record, back, changed, hsplit, -, -, hreplaces, -, huuid, hname, -⟩ :=
    hpatches
  refine h.of_replaces hreplaces rfl rfl rfl (fun session => Iff.rfl) ?_
  have hidentity : changed.identity = record.identity := by
    rw [InfobaseInfo.identity, huuid, hname, InfobaseInfo.identity]
  rw [← h.infobases_of_get? hreplaces.old_stored, hsplit, List.map_append, List.map_append,
    List.map_cons, List.map_cons, hidentity]

theorem ended
    (h : before.Follows clusterId deeds) {sessionId : String}
    (hends : before.EndsSession after clusterId sessionId) :
    after.Follows clusterId (deeds ++ [.ends sessionId]) := by
  obtain ⟨cluster, entry, remaining, -, hgone, hothers, hreplaces⟩ := hends
  refine ⟨?_, fun session => ?_, ?_⟩
  · rw [Deed.summary?_concat, ← h.summary, hreplaces.old_stored, hreplaces.new_stored]
    rfl
  · rw [Deed.lasts_concat_iff, ← h.session, sessionsOf_of_get? hreplaces.old_stored,
      sessionsOf_of_get? hreplaces.new_stored]
    by_cases hsame : session.uuid = sessionId
    · simp [hsame, hgone, Deed.Settles]
    · simp [hothers session.uuid hsame, Deed.Settles, Ne.symm hsame]
  · have hsurvivors : Deed.survivors (deeds ++ [.ends sessionId]) = Deed.survivors deeds :=
      Deed.survivors_concat deeds _
    rw [hsurvivors, ← h.infobases, infobasesOf_of_get? hreplaces.old_stored,
      infobasesOf_of_get? hreplaces.new_stored]

/-- What happened elsewhere leaves the cluster as it was. -/
theorem of_replaces_other
    (h : before.Follows clusterId deeds) {other : String} {old new : Cluster}
    (hreplaces : before.Replaces after other old new) (hother : other ≠ clusterId) :
    after.Follows clusterId deeds :=
  h.of_get?_eq (hreplaces.others clusterId (Ne.symm hother))

/-- The store follows its chronicle through every request that is answered. -/
theorem answered
    (h : before.Follows clusterId deeds) (hsound : before.Sound) {request : EndpointRequest}
    (hkeeps : request.KeepsNames)
    (hhandle : before.handle uuid request = .ok (response, after)) :
    after.Follows clusterId (deeds ++ (request.deed? clusterId response).toList) := by
  have heffect := effect_of_handle_eq_ok hkeeps hhandle
  cases request with
  | createInfobase info =>
    obtain ⟨rfl, cluster, name, -, -, hreplaces⟩ := created_of_handle_eq_ok hhandle
    by_cases hcluster : info.clusterId = clusterId
    · subst hcluster
      simp only [EndpointRequest.deed?, if_pos, Option.toList_some]
      exact h.created hreplaces
    · simp only [EndpointRequest.deed?, if_neg hcluster, Option.toList_none, List.append_nil]
      exact h.of_replaces_other hreplaces hcluster
  | updateInfobase patch =>
    obtain ⟨infobaseId, hpatches⟩ := heffect
    simp only [EndpointRequest.deed?, Option.toList_none, List.append_nil]
    by_cases hcluster : patch.clusterId = clusterId
    · subst hcluster
      exact h.updated hpatches
    · obtain ⟨cluster, front, record, back, changed, -, -, -, hreplaces, -⟩ := hpatches
      exact h.of_replaces_other hreplaces hcluster
  | unregisterInfobase info =>
    obtain ⟨cluster, front, record, back, rfl, hsplit, hreplaces⟩ :=
      removed_of_handle_eq_ok hhandle
    by_cases hcluster : info.clusterId = clusterId
    · subst hcluster
      simp only [EndpointRequest.deed?, if_pos, Option.toList_some]
      exact h.removed hsound hsplit hreplaces
    · simp only [EndpointRequest.deed?, if_neg hcluster, Option.toList_none, List.append_nil]
      exact h.of_replaces_other hreplaces hcluster
  | terminateSession session =>
    by_cases hcluster : session.clusterId = clusterId
    · subst hcluster
      simp only [EndpointRequest.deed?, if_pos, Option.toList_some]
      exact h.ended heffect
    · simp only [EndpointRequest.deed?, if_neg hcluster, Option.toList_none, List.append_nil]
      obtain ⟨cluster, entry, remaining, -, -, -, hreplaces⟩ := heffect
      exact h.of_replaces_other hreplaces hcluster
  | _ =>
    cases heffect
    simp only [EndpointRequest.deed?, Option.toList_none, List.append_nil]
    exact h

/-! ### What is added from outside -/

theorem addCluster (h : before.Follows clusterId deeds) (id : String) :
    (before.addCluster id).Follows clusterId
      (deeds ++ (if id = clusterId then some (.opens (Cluster.new id).summary) else none).toList)
    := by
  by_cases hid : id = clusterId
  · subst hid
    rw [if_pos rfl, Option.toList_some]
    have hlasts (session : SessionEntry) :
        Deed.Lasts session (deeds ++ [.opens (Cluster.new id).summary]) ↔
          Deed.Lasts session deeds :=
      Deed.lasts_concat_of_not_settles deeds session fun _ hsettles => hsettles
    have hsurvivors :
        Deed.survivors (deeds ++ [.opens (Cluster.new id).summary]) = Deed.survivors deeds :=
      Deed.survivors_concat deeds _
    cases hget : before.clusters.get? id with
    | none =>
      have hadd : before.addCluster id = before.putCluster id (.new id) := by
        simp [Store.addCluster, Keyed.contains, hget]
      have hnew : (before.putCluster id (.new id)).clusters.get? id = some (.new id) := by
        simp [putCluster]
      rw [hadd]
      refine ⟨?_, fun session => ?_, ?_⟩
      · rw [Deed.summary?_concat, hnew, h.summary?_eq_none_iff.mpr hget]
        rfl
      · rw [hlasts, ← h.session, sessionsOf_of_get? hnew, sessionsOf, hget]
        exact Iff.rfl
      · rw [hsurvivors, ← h.infobases, infobasesOf_of_get? hnew, infobasesOf, hget]
        rfl
    | some cluster =>
      have hadd : before.addCluster id = before := by
        simp [Store.addCluster, Keyed.contains, hget]
      rw [hadd]
      refine ⟨?_, fun session => ?_, ?_⟩
      · rw [Deed.summary?_concat, ← h.summary, hget]
        rfl
      · rw [hlasts, h.session]
      · rw [hsurvivors, h.infobases]
  · rw [if_neg hid, Option.toList_none, List.append_nil]
    refine h.of_get?_eq ?_
    unfold Store.addCluster
    by_cases hcontains : before.clusters.contains id = true
    · rw [if_pos hcontains]
    · rw [if_neg hcontains]
      simp [putCluster, Ne.symm hid]

theorem addInfobaseSession
    (h : before.Follows clusterId deeds) (id : String) (session : SessionEntry) :
    (before.addInfobaseSession id session).Follows clusterId
      (deeds ++ (if id = clusterId then some (.admits session) else none).toList) := by
  unfold Store.addInfobaseSession modifyCluster
  by_cases hid : id = clusterId
  · subst hid
    rw [if_pos rfl, Option.toList_some]
    have hsummary : Deed.summary? (deeds ++ [.admits session]) = Deed.summary? deeds := by
      rw [Deed.summary?_concat]
      exact Option.or_none
    have hsurvivors : Deed.survivors (deeds ++ [.admits session]) = Deed.survivors deeds :=
      Deed.survivors_concat deeds _
    cases hget : before.clusters.get? id with
    | none =>
      refine ⟨by rw [hsummary, h.summary], fun other => ?_, by rw [hsurvivors, h.infobases]⟩
      -- A session that is added to no cluster does not last.
      have hnone : Deed.summary? deeds = none := h.summary?_eq_none_iff.mpr hget
      have hno : ¬Deed.Lasts other deeds := by
        rw [← h.session, sessionsOf, hget]
        nofun
      rw [Deed.lasts_concat_iff, h.session]
      simp [hnone, hno]
    | some cluster =>
      dsimp only
      have hnew := replaces_putCluster hget (cluster.addSession session)
      refine ⟨?_, fun other => ?_, ?_⟩
      · rw [hsummary, ← h.summary, hnew.old_stored, hnew.new_stored]
        rfl
      · have hopen : Deed.summary? deeds ≠ none := by
          rw [Ne, h.summary?_eq_none_iff, hget]
          nofun
        rw [Deed.lasts_concat_iff, ← h.session, sessionsOf_of_get? hnew.old_stored,
          sessionsOf_of_get? hnew.new_stored, Cluster.addSession, Keyed.get?_insert]
        by_cases hsame : other.uuid = session.uuid
        · simp [hsame, hopen, Deed.Settles]
        · have hother : session ≠ other := fun hequal => hsame (congrArg _ hequal.symm)
          simp [hsame, Ne.symm hsame, hother, Deed.Settles]
      · rw [hsurvivors, ← h.infobases, infobasesOf_of_get? hnew.old_stored,
          infobasesOf_of_get? hnew.new_stored]
        rfl
  · rw [if_neg hid, Option.toList_none, List.append_nil]
    refine h.of_get?_eq ?_
    cases hget : before.clusters.get? id with
    | none => rfl
    | some cluster => simp [putCluster, Ne.symm hid]

theorem addClusterAdmin (h : before.Follows clusterId deeds) (id : String) (account : Account) :
    (before.addClusterAdmin id account).Follows clusterId deeds := by
  unfold Store.addClusterAdmin modifyCluster
  cases hget : before.clusters.get? id with
  | none => exact h
  | some cluster =>
    have hreplaces := replaces_putCluster hget
      { cluster with admins := cluster.admins ++ [account] }
    by_cases hid : id = clusterId
    · subst hid
      have hinfobases := h.infobases_of_get? hget
      exact h.of_replaces hreplaces rfl rfl rfl (fun _ => Iff.rfl) hinfobases
    · exact h.of_replaces_other hreplaces hid

end Follows

end Store

/-! ## From the configuration on -/

/-- The creations that configured infobases stand for, when `issued` uuids of the supply are used up
before. -/
def InfobaseSeed.deeds (uuids : Nat → String) : (issued : Nat) → List InfobaseSeed → List Deed
  | _, [] => []
  | issued, seed :: seeds =>
    .creates ⟨seed.uuidOr (uuids issued), seed.name⟩ ::
      deeds uuids (issued + drawn [seed]) seeds

namespace ClusterSeed

/-- The chronicle of a configured cluster up to its first request. -/
def deeds (uuids : Nat → String) (issued : Nat) (seed : ClusterSeed) : List Deed :=
  .opens
      { uuid := seed.id
        host := seed.host.getD "localhost"
        port := seed.port.getD 1541
        name := seed.name.getD seed.id } ::
    (seed.sessions.map fun id => .admits (.unbound id)) ++
      InfobaseSeed.deeds uuids issued seed.infobases

/-- The chronicle of one cluster of a configuration. -/
def deedsIn (uuids : Nat → String) (clusterId : String) :
    (issued : Nat) → List ClusterSeed → List Deed
  | _, [] => []
  | issued, seed :: seeds =>
    if seed.id = clusterId then seed.deeds uuids issued
    else deedsIn uuids clusterId (issued + InfobaseSeed.drawn seed.infobases) seeds

end ClusterSeed

/-- What a configuration makes happen in a cluster. -/
def StoreSeed.deedsIn (uuids : Nat → String) (seed : StoreSeed) (clusterId : String) : List Deed :=
  ClusterSeed.deedsIn uuids clusterId 0 seed.clusters

namespace Deed

theorem lasts_append_iff
    {deeds more : List Deed} (hmore : ∀ deed ∈ more, ∀ sessionId, ¬deed.Settles sessionId)
    (session : SessionEntry) : Lasts session (deeds ++ more) ↔ Lasts session deeds := by
  induction more using List.reverseRecOn with
  | nil => rw [List.append_nil]
  | append_singleton more deed ih =>
    have hdeed := hmore deed (by simp)
    have hothers := ih fun other hother => hmore other (List.mem_append_left _ hother)
    rw [← List.append_assoc, lasts_concat_of_not_settles _ _ hdeed, hothers]

theorem lasts_unbound_iff (summary : ClusterInfo) (ids : List String) (session : SessionEntry) :
    Lasts session (opens summary :: ids.map fun id => admits (.unbound id)) ↔
      ∃ id ∈ ids, session = .unbound id := by
  induction ids using List.reverseRecOn with
  | nil =>
    constructor
    · rintro ⟨earlier, later, hsplit, -⟩
      have hmem : admits session ∈ [opens summary] := by
        rw [List.map_nil] at hsplit
        simp [hsplit]
      simp at hmem
    · rintro ⟨id, hid, -⟩
      cases hid
  | append_singleton ids id ih =>
    rw [List.map_append, List.map_singleton, ← List.cons_append, lasts_concat_iff, ih]
    constructor
    · rintro (⟨hlast, -⟩ | ⟨⟨other, hother, hsession⟩, -⟩)
      · exact ⟨id, by simp, (admits.inj hlast).symm⟩
      · exact ⟨other, List.mem_append_left _ hother, hsession⟩
    · rintro ⟨other, hother, rfl⟩
      by_cases hsame : id = other
      · exact .inl ⟨by rw [hsame], nofun⟩
      · refine .inr ⟨⟨other, ?_, rfl⟩, hsame⟩
        simpa [Ne.symm hsame] using hother

theorem survivors_admits_append (sessions : List SessionEntry) (deeds : List Deed) :
    survivors (sessions.map admits ++ deeds) = survivors deeds := by
  induction sessions with
  | nil => rfl
  | cons session sessions ih => exact ih

end Deed

namespace InfobaseSeed

theorem exists_eq_creates_of_mem_deeds
    {uuids : Nat → String} {seeds : List InfobaseSeed} {issued : Nat} {deed : Deed}
    (hmem : deed ∈ deeds uuids issued seeds) : ∃ infobase, deed = .creates infobase := by
  induction seeds generalizing issued with
  | nil => cases hmem
  | cons seed seeds ih =>
    rcases List.mem_cons.mp hmem with rfl | hmem
    · exact ⟨_, rfl⟩
    · exact ih hmem

theorem survivors_deeds_cons
    (uuids : Nat → String) (issued : Nat) (seed : InfobaseSeed) (seeds : List InfobaseSeed) :
    Deed.survivors (deeds uuids issued (seed :: seeds)) =
      ⟨seed.uuidOr (uuids issued), seed.name⟩ ::
        Deed.survivors (deeds uuids (issued + drawn [seed]) seeds) := by
  rw [deeds, Deed.survivors, if_neg]
  intro hremoved
  obtain ⟨infobase, hcreates⟩ := exists_eq_creates_of_mem_deeds hremoved
  cases hcreates

end InfobaseSeed

namespace ClusterSeed.Describes

variable {uuids : Nat → String} {issued : Nat} {seed : ClusterSeed} {cluster : Cluster}

theorem map_identity (h : seed.Describes uuids issued cluster) :
    cluster.infobases.map (fun infobase => infobase.identity) =
      Deed.survivors (InfobaseSeed.deeds uuids issued seed.infobases) := by
  -- From each place on, the records are the ones that are configured from there on.
  suffices hrest : ∀ rest front, seed.infobases = front ++ rest →
      (cluster.infobases.drop front.length).map (fun infobase => infobase.identity) =
        Deed.survivors (InfobaseSeed.deeds uuids (issued + InfobaseSeed.drawn front) rest) by
    simpa [InfobaseSeed.drawn] using hrest seed.infobases [] rfl
  intro rest
  induction rest with
  | nil =>
    intro front hsplit
    rw [List.append_nil] at hsplit
    rw [List.drop_eq_nil_of_le (by rw [h.infobases_length, hsplit])]
    rfl
  | cons infobase rest ih =>
    intro front hsplit
    have hrecord := h.infobase front infobase rest hsplit
    obtain ⟨hlength, hget⟩ := List.getElem?_eq_some_iff.mp hrecord
    have hlater := ih (front ++ [infobase]) (by simp [hsplit])
    rw [List.length_append, List.length_singleton, InfobaseSeed.drawn, List.countP_append,
      ← Nat.add_assoc] at hlater
    rw [InfobaseSeed.survivors_deeds_cons, ← List.getElem_cons_drop hlength, List.map_cons, hget]
    exact congrArg _ hlater

/-- The store follows the chronicle of a cluster that it has as configured. -/
theorem follows
    (h : seed.Describes uuids issued cluster) {store : Store}
    (hget : store.clusters.get? seed.id = some cluster) :
    store.Follows seed.id (seed.deeds uuids issued) where
  summary := by
    rw [hget]
    exact congrArg some h.summary
  session session := by
    have hcreations : ∀ deed ∈ InfobaseSeed.deeds uuids issued seed.infobases, ∀ sessionId,
        ¬deed.Settles sessionId := by
      intro deed hdeed sessionId
      obtain ⟨infobase, rfl⟩ := InfobaseSeed.exists_eq_creates_of_mem_deeds hdeed
      exact fun hsettles => hsettles
    rw [deeds, Deed.lasts_append_iff hcreations, Deed.lasts_unbound_iff,
      Store.sessionsOf_of_get? hget, h.session]
    by_cases hmem : session.uuid ∈ seed.sessions
    · rw [if_pos hmem, Option.some_inj]
      constructor
      · intro hsession
        exact ⟨session.uuid, hmem, hsession.symm⟩
      · rintro ⟨id, -, rfl⟩
        rfl
    · rw [if_neg hmem]
      constructor
      · nofun
      · rintro ⟨id, hid, rfl⟩
        exact absurd hid hmem
  infobases := by
    rw [Store.infobasesOf_of_get? hget, h.map_identity]
    have hadmits := Deed.survivors_admits_append (seed.sessions.map .unbound)
      (InfobaseSeed.deeds uuids issued seed.infobases)
    rw [List.map_map] at hadmits
    exact hadmits.symm

end ClusterSeed.Describes

theorem Store.follows_nil
    {store : Store} {clusterId : String} (hget : store.clusters.get? clusterId = none) :
    store.Follows clusterId [] where
  summary := by
    rw [hget]
    rfl
  session session := by
    rw [sessionsOf, hget]
    constructor
    · nofun
    · rintro ⟨earlier, later, hsplit, -⟩
      simp at hsplit
  infobases := by
    rw [infobasesOf, hget]
    rfl

theorem ClusterSeed.deedsIn_append
    (uuids : Nat → String) {clusterId : String} {front : List ClusterSeed}
    (hfront : clusterId ∉ front.map (·.id)) (rest : List ClusterSeed) (issued : Nat) :
    deedsIn uuids clusterId issued (front ++ rest) =
      deedsIn uuids clusterId (issued + InfobaseSeed.drawn (front.flatMap (·.infobases))) rest := by
  induction front generalizing issued with
  | nil => rfl
  | cons seed front ih =>
    rw [List.map_cons, List.mem_cons, not_or] at hfront
    rw [List.cons_append, deedsIn, if_neg (Ne.symm hfront.1), ih hfront.2, List.flatMap_cons,
      InfobaseSeed.drawn, InfobaseSeed.drawn, InfobaseSeed.drawn, List.countP_append, Nat.add_assoc]

/-- The service that a configuration gives follows the chronicle of the configuration. -/
theorem Service.Holds.follows
    {uuids : Nat → String} {seed : StoreSeed} {service : Service} (h : service.Holds uuids seed)
    (clusterId : String) :
    service.store.Follows clusterId (seed.deedsIn uuids clusterId) := by
  by_cases hid : clusterId ∈ seed.clusters.map (·.id)
  · obtain ⟨before, after, hids, hbefore⟩ := List.eq_append_cons_of_mem hid
    obtain ⟨front, rest, hclusters, rfl, hrest⟩ := List.map_eq_append_iff.mp hids
    obtain ⟨clusterSeed, back, rfl, rfl, -⟩ := List.map_eq_cons_iff.mp hrest
    obtain ⟨cluster, hget, hdescribes⟩ := h.cluster front clusterSeed back hclusters
    rw [StoreSeed.deedsIn, hclusters, ClusterSeed.deedsIn_append uuids hbefore,
      ClusterSeed.deedsIn, if_pos rfl, Nat.zero_add]
    exact hdescribes.follows hget
  · have hnone : seed.deedsIn uuids clusterId = [] := by
      have hall := ClusterSeed.deedsIn_append uuids hid [] 0
      rw [List.append_nil] at hall
      exact hall
    rw [hnone]
    exact Store.follows_nil (h.no_other clusterId hid)

end InfobaseGateway
