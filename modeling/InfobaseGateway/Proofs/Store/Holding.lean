import InfobaseGateway.Proofs.Operation.Creation
import InfobaseGateway.Proofs.Store.Soundness

/-!
# Infobases that stay

An infobase keeps its uuid and its name whatever is asked of the service, until a request removes it
by its uuid. While it is there, a lookup by its name finds it, because no other infobase of its
cluster has the name.
-/

namespace InfobaseGateway

/-- The request removes the infobase. -/
def EndpointRequest.Removes (clusterId infobaseId : String) : EndpointRequest → Prop
  | unregisterInfobase info => info.clusterId = clusterId ∧ info.uuid = some infobaseId
  | _ => False

/-- The request renames no infobase, and it does not remove this one. -/
def EndpointRequest.Spares (clusterId infobaseId : String) (request : EndpointRequest) : Prop :=
  request.KeepsNames ∧ ¬request.Removes clusterId infobaseId

namespace Cluster

/-- The cluster has an infobase with the uuid and the name. -/
def Holds (cluster : Cluster) (infobaseId name : String) : Prop :=
  ∃ record ∈ cluster.infobases, record.uuid = some infobaseId ∧ record.name = some name

theorem Holds.hasName
    {cluster : Cluster} {infobaseId name : String} (h : cluster.Holds infobaseId name) :
    cluster.hasName name = true := by
  obtain ⟨record, hmem, -, hname⟩ := h
  exact List.any_eq_true.mpr ⟨record, hmem, decide_eq_true hname⟩

namespace Sound

variable {clusterId : String} {cluster : Cluster}

/-- The lookup of a creation finds the infobase that has its name. -/
theorem existing?_eq_some_iff
    (h : cluster.Sound clusterId) {request : CreateInfobase} (hname : request.name ≠ "")
    (existing : InfobaseShort) :
    request.existing? (cluster.infobases.map InfobaseInfo.short) = some existing ↔
      ∃ record ∈ cluster.infobases, record.name = some request.name ∧
        record.short = existing := by
  have hshort (record : InfobaseInfo) :
      record.short.name = request.name ↔ record.name = some request.name :=
    record.short_name_eq_iff hname
  constructor
  · intro hfound
    obtain ⟨record, hmem, rfl⟩ := List.mem_map.mp (List.mem_of_find?_eq_some hfound)
    have hsame : record.short.name = request.name := by simpa using List.find?_some hfound
    exact ⟨record, hmem, (hshort record).mp hsame, rfl⟩
  · rintro ⟨record, hmem, hsame, rfl⟩
    cases hfound : request.existing? (cluster.infobases.map InfobaseInfo.short) with
    | none =>
      have hno := (request.existing?_eq_none_iff _).mp hfound _ (List.mem_map_of_mem hmem)
      exact absurd ((hshort record).mpr hsame) hno
    | some existing =>
      obtain ⟨other, hother, rfl⟩ := List.mem_map.mp (List.mem_of_find?_eq_some hfound)
      have hothername : other.short.name = request.name := by
        simpa using List.find?_some hfound
      have heq : other = record :=
        List.inj_on_of_nodup_map h.names_nodup hother hmem
          (((hshort other).mp hothername).trans hsame.symm)
      rw [heq]

/-- A name that is taken belongs to an infobase with a uuid. -/
theorem exists_holds_of_hasName
    (h : cluster.Sound clusterId) {name : String} (htaken : cluster.hasName name = true) :
    ∃ infobaseId, cluster.Holds infobaseId name := by
  obtain ⟨record, hmem, hname⟩ := List.any_eq_true.mp htaken
  obtain ⟨-, huuid, -⟩ := h.infobases record hmem
  obtain ⟨infobaseId, hsome⟩ := Option.ne_none_iff_exists'.mp huuid
  exact ⟨infobaseId, record, hmem, hsome, of_decide_eq_true hname⟩

/-- What a cluster holds, a lookup finds. -/
theorem existing?_of_holds
    (h : cluster.Sound clusterId) {request : CreateInfobase} (hname : request.name ≠ "")
    {infobaseId : String} (hholds : cluster.Holds infobaseId request.name) :
    ∃ existing,
      request.existing? (cluster.infobases.map InfobaseInfo.short) = some existing ∧
        existing.uuid = infobaseId ∧ existing.name = request.name := by
  obtain ⟨record, hmem, huuid, hrecord⟩ := hholds
  refine ⟨record.short, (h.existing?_eq_some_iff hname _).mpr ⟨record, hmem, hrecord, rfl⟩, ?_⟩
  simp [InfobaseInfo.short, huuid, hrecord]

end Sound

end Cluster

namespace Store

variable {clusterId infobaseId name : String}

/-- A cluster of the store has an infobase with the uuid and the name. -/
def Holds (clusterId infobaseId name : String) (store : Store) : Prop :=
  ∃ cluster, store.clusters.get? clusterId = some cluster ∧ cluster.Holds infobaseId name

variable {before after : Store}

/-- A cluster may be replaced by one that holds the infobase. -/
theorem Holds.of_replaces
    (h : before.Holds clusterId infobaseId name) {id : String} {old new : Cluster}
    (hreplaces : before.Replaces after id old new)
    (hnew : id = clusterId → old.Holds infobaseId name → new.Holds infobaseId name) :
    after.Holds clusterId infobaseId name := by
  obtain ⟨cluster, hget, hholds⟩ := h
  by_cases hsame : clusterId = id
  · subst hsame
    cases hget.symm.trans hreplaces.old_stored
    exact ⟨new, hreplaces.new_stored, hnew rfl hholds⟩
  · exact ⟨cluster, (hreplaces.others clusterId hsame).trans hget, hholds⟩

/-- A request that spares an infobase leaves it there with its name. -/
theorem Holds.of_effect
    (h : before.Holds clusterId infobaseId name) {request : EndpointRequest} {uuid : String}
    (hspares : ¬request.Removes clusterId infobaseId)
    (heffect : request.Effect uuid before after) : after.Holds clusterId infobaseId name := by
  cases request with
  | createInfobase info =>
    obtain ⟨cluster, other, -, -, hreplaces⟩ := heffect
    refine h.of_replaces hreplaces ?_
    rintro - ⟨record, hmem, hrecord⟩
    exact ⟨record, List.mem_append_left _ hmem, hrecord⟩
  | updateInfobase patch =>
    obtain ⟨id, cluster, front, record, back, changed, hsplit, -, -, hreplaces, -, huuid, hname,
      -⟩ := heffect
    refine h.of_replaces hreplaces ?_
    rintro - ⟨other, hmem, hother⟩
    rw [hsplit] at hmem
    rcases List.mem_append.mp hmem with hfront | hrest
    · exact ⟨other, List.mem_append_left _ hfront, hother⟩
    · rcases List.mem_cons.mp hrest with rfl | hback
      · refine ⟨changed, List.mem_append_right _ List.mem_cons_self, ?_⟩
        rw [huuid, hname]
        exact hother
      · exact ⟨other, List.mem_append_right _ (List.mem_cons_of_mem _ hback), hother⟩
  | unregisterInfobase info =>
    obtain ⟨id, hid, cluster, front, record, back, hsplit, huuid, -, hreplaces⟩ := heffect
    refine h.of_replaces hreplaces ?_
    rintro hcluster ⟨other, hmem, hother⟩
    refine ⟨other, ?_, hother⟩
    rw [hsplit] at hmem
    rcases List.mem_append.mp hmem with hfront | hrest
    · exact List.mem_append_left _ hfront
    · rcases List.mem_cons.mp hrest with rfl | hback
      · have hremoved : info.uuid = some infobaseId := hid.trans (huuid.symm.trans hother.1)
        exact absurd ⟨hcluster, hremoved⟩ hspares
      · exact List.mem_append_right _ hback
  | terminateSession session =>
    obtain ⟨cluster, entry, remaining, -, -, -, hreplaces⟩ := heffect
    exact h.of_replaces hreplaces fun _ hholds => hholds
  | _ =>
    cases heffect
    exact h

theorem Holds.addCluster
    {store : Store} (h : store.Holds clusterId infobaseId name) (id : String) :
    (store.addCluster id).Holds clusterId infobaseId name := by
  obtain ⟨cluster, hget, hholds⟩ := h
  unfold Store.addCluster
  by_cases hcontains : store.clusters.contains id = true
  · rw [if_pos hcontains]
    exact ⟨cluster, hget, hholds⟩
  · have hother : clusterId ≠ id := by
      rintro rfl
      exact hcontains (by simp [Keyed.contains, hget])
    rw [if_neg hcontains]
    exact ⟨cluster, by simp [putCluster, hother, hget], hholds⟩

theorem Holds.modifyCluster
    {store : Store} (h : store.Holds clusterId infobaseId name) (id : String)
    {change : Cluster → Cluster}
    (hchange : ∀ cluster, (change cluster).infobases = cluster.infobases) :
    (store.modifyCluster id change).Holds clusterId infobaseId name := by
  unfold Store.modifyCluster
  cases hget : store.clusters.get? id with
  | none => exact h
  | some cluster =>
    refine h.of_replaces (replaces_putCluster hget _) fun _ hholds => ?_
    rw [Cluster.Holds, hchange]
    exact hholds

/-- An infobase stays as long as it is spared. -/
theorem lasting_holds (uuids : Nat → String) (clusterId infobaseId name : String) :
    Lasting uuids (EndpointRequest.Spares clusterId infobaseId)
      fun store => store.Sound ∧ store.Holds clusterId infobaseId name where
  answered := by
    rintro n request response before after ⟨hsound, hholds⟩ ⟨hkeeps, hspares⟩ hhandle
    have heffect := effect_of_handle_eq_ok hkeeps hhandle
    exact ⟨hsound.of_effect heffect, hholds.of_effect hspares heffect⟩
  addCluster := fun id h => ⟨h.1.addCluster id, h.2.addCluster id⟩
  addInfobaseSession := fun id session h =>
    ⟨h.1.addInfobaseSession id session, h.2.modifyCluster id fun _ => rfl⟩
  addClusterAdmin := fun id account h =>
    ⟨h.1.addClusterAdmin id account, h.2.modifyCluster id fun _ => rfl⟩

end Store

end InfobaseGateway
