import InfobaseGateway.Proofs.Service.Traffic
import InfobaseGateway.Proofs.Store.Identity
import Mathlib.Logic.Function.Basic

/-!
# Uuids in use

Infobases get their uuids in two ways. The configuration may give one, and otherwise one is issued
from a supply. A supply that never issues what is in use keeps the infobases of every cluster apart,
and the uuid of an infobase that is gone does not come back. What the configuration gives must be
told apart to begin with: two infobases of a cluster may not have the same name there, but nothing
keeps them from being given the same uuid.
-/

namespace InfobaseGateway

/-- The uuids that the configuration of a cluster gives to its infobases. -/
def ClusterSeed.givenUuids (seed : ClusterSeed) : List String :=
  seed.infobases.filterMap InfobaseSeed.uuid

/-- The uuids that a configuration gives to infobases. -/
def StoreSeed.givenUuids (seed : StoreSeed) : List String :=
  seed.clusters.flatMap ClusterSeed.givenUuids

/-- A supply that never issues a uuid in use: none that is given, and none that it issued before.
No uuid is the empty text. -/
structure FreshSupply (uuids : Nat → String) (given : List String) : Prop where
  nonempty : ∀ n, uuids n ≠ ""
  not_given : ∀ n, uuids n ∉ given
  injective : Function.Injective uuids

/-- The uuid is given, or it is one of the first that the supply issued. -/
def InUse (uuids : Nat → String) (given : List String) (issued : Nat) (infobaseId : String) : Prop :=
  infobaseId ∈ given ∨ ∃ n < issued, uuids n = infobaseId

section InUse

variable {uuids : Nat → String} {given : List String} {issued later : Nat} {infobaseId : String}

theorem InUse.mono (h : InUse uuids given issued infobaseId) (hlater : issued ≤ later) :
    InUse uuids given later infobaseId := by
  rcases h with hgiven | ⟨n, hn, huuid⟩
  · exact .inl hgiven
  · exact .inr ⟨n, Nat.lt_of_lt_of_le hn hlater, huuid⟩

theorem inUse_of_issued (uuids : Nat → String) (given : List String) (hissued : issued < later) :
    InUse uuids given later (uuids issued) :=
  .inr ⟨issued, hissued, rfl⟩

/-- What is in use is not issued next. -/
theorem FreshSupply.ne_of_inUse
    (hfresh : FreshSupply uuids given) (h : InUse uuids given issued infobaseId) :
    infobaseId ≠ uuids issued := by
  rintro rfl
  rcases h with hgiven | ⟨n, hn, huuid⟩
  · exact hfresh.not_given issued hgiven
  · exact Nat.ne_of_lt hn (hfresh.injective huuid)

end InUse

/-! ## Services whose infobases are told apart -/

namespace Service

/-- The infobases of every cluster are told apart, and their uuids are in use. -/
structure Identifies (uuids : Nat → String) (given : List String) (service : Service) : Prop where
  distinct : service.store.Distinct
  in_use : ∀ clusterId infobaseId, some infobaseId ∈ service.store.uuidsOf clusterId →
    InUse uuids given service.issued infobaseId

/-- The infobase is gone from the cluster, and its uuid is in use. -/
structure Gone (uuids : Nat → String) (given : List String) (clusterId infobaseId : String)
    (service : Service) : Prop extends Identifies uuids given service where
  absent : some infobaseId ∉ service.store.uuidsOf clusterId
  used : InUse uuids given service.issued infobaseId

section Answered

variable {uuids : Nat → String} {given : List String} {service : Service} {store : Store}
  {request : EndpointRequest} {response : EndpointResponse}

theorem issued_le_afterAnswer (service : Service) (request : EndpointRequest) (store : Store) :
    service.issued ≤ (service.afterAnswer request store).issued := by
  unfold afterAnswer
  split
  · exact Nat.le_succ service.issued
  · exact Nat.le_refl service.issued

/-- A creation that is answered uses up a uuid. -/
theorem issued_lt_afterAnswer
    (hcreation : request.IsCreation) (service : Service) (store : Store) :
    service.issued < (service.afterAnswer request store).issued := by
  cases request with
  | createInfobase info => exact Nat.lt_succ_self service.issued
  | _ => exact hcreation.elim

theorem Identifies.answered
    (hfresh : FreshSupply uuids given) (h : service.Identifies uuids given)
    (hkeeps : request.KeepsNames)
    (hhandle : service.store.handle (uuids service.issued) request = .ok (response, store)) :
    (service.afterAnswer request store).Identifies uuids given := by
  have heffect := Store.effect_of_handle_eq_ok hkeeps hhandle
  constructor
  · refine h.distinct.of_effect heffect ?_
    intro hcreation clusterId hmem
    exact hfresh.ne_of_inUse (h.in_use clusterId _ hmem) rfl
  · intro clusterId infobaseId hmem
    rcases Store.mem_uuidsOf_of_effect heffect hmem with hold | ⟨hcreation, rfl⟩
    · exact (h.in_use clusterId infobaseId hold).mono (service.issued_le_afterAnswer request store)
    · exact inUse_of_issued uuids given (issued_lt_afterAnswer hcreation service store)

/-- What is gone stays gone, because its uuid is not issued again. -/
theorem Gone.answered
    {clusterId infobaseId : String} (hfresh : FreshSupply uuids given)
    (h : service.Gone uuids given clusterId infobaseId) (hkeeps : request.KeepsNames)
    (hhandle : service.store.handle (uuids service.issued) request = .ok (response, store)) :
    (service.afterAnswer request store).Gone uuids given clusterId infobaseId := by
  have heffect := Store.effect_of_handle_eq_ok hkeeps hhandle
  refine ⟨h.toIdentifies.answered hfresh hkeeps hhandle, ?_, ?_⟩
  · intro hmem
    rcases Store.mem_uuidsOf_of_effect heffect hmem with hold | ⟨-, hissued⟩
    · exact h.absent hold
    · exact hfresh.ne_of_inUse h.used hissued
  · exact h.used.mono (service.issued_le_afterAnswer request store)

/-- An infobase that a request removes is gone. -/
theorem Identifies.gone_of_removes
    {clusterId infobaseId : String} (hfresh : FreshSupply uuids given)
    (h : service.Identifies uuids given) (hremoves : request.Removes clusterId infobaseId)
    (hkeeps : request.KeepsNames)
    (hhandle : service.store.handle (uuids service.issued) request = .ok (response, store)) :
    (service.afterAnswer request store).Gone uuids given clusterId infobaseId := by
  have heffect := Store.effect_of_handle_eq_ok hkeeps hhandle
  refine ⟨h.answered hfresh hkeeps hhandle, h.distinct.not_mem_of_removes hremoves heffect, ?_⟩
  obtain ⟨front, back, hbefore, -⟩ := Store.uuidsOf_of_removes hremoves heffect
  have hused : InUse uuids given service.issued infobaseId := by
    apply h.in_use clusterId
    rw [hbefore]
    exact List.mem_append_right front List.mem_cons_self
  exact hused.mono (service.issued_le_afterAnswer request store)

end Answered

section Outside

variable {uuids : Nat → String} {given : List String} {clusterId infobaseId : String}
  {service : Service} {store : Store}

/-- Only the uuids of the infobases count. -/
theorem Identifies.withStore
    (h : service.Identifies uuids given)
    (hsame : ∀ clusterId, store.infobasesOf clusterId = service.store.infobasesOf clusterId) :
    ({ service with store := store } : Service).Identifies uuids given := by
  have huuids (clusterId : String) : store.uuidsOf clusterId = service.store.uuidsOf clusterId :=
    congrArg (List.map InfobaseInfo.uuid) (hsame clusterId)
  constructor
  · intro clusterId
    rw [huuids clusterId]
    exact h.distinct clusterId
  · intro clusterId infobaseId hmem
    rw [huuids clusterId] at hmem
    exact h.in_use clusterId infobaseId hmem

theorem Gone.withStore
    (h : service.Gone uuids given clusterId infobaseId)
    (hsame : ∀ clusterId, store.infobasesOf clusterId = service.store.infobasesOf clusterId) :
    ({ service with store := store } : Service).Gone uuids given clusterId infobaseId := by
  refine ⟨h.toIdentifies.withStore hsame, ?_, h.used⟩
  rw [Store.uuidsOf, hsame clusterId]
  exact h.absent

end Outside

variable {uuids : Nat → String} {given : List String}

theorem enduring_identifies (hfresh : FreshSupply uuids given) :
    Enduring uuids EndpointRequest.KeepsNames (Identifies uuids given) where
  answered := fun h hkeeps hhandle => h.answered hfresh hkeeps hhandle
  addCluster := fun id h => h.withStore (Store.infobasesOf_addCluster _ id)
  addInfobaseSession := fun id _ h =>
    h.withStore (Store.infobasesOf_modifyCluster _ id fun _ => rfl)
  addClusterAdmin := fun id _ h =>
    h.withStore (Store.infobasesOf_modifyCluster _ id fun _ => rfl)

theorem enduring_gone (hfresh : FreshSupply uuids given) (clusterId infobaseId : String) :
    Enduring uuids EndpointRequest.KeepsNames (Gone uuids given clusterId infobaseId) where
  answered := fun h hkeeps hhandle => h.answered hfresh hkeeps hhandle
  addCluster := fun id h => h.withStore (Store.infobasesOf_addCluster _ id)
  addInfobaseSession := fun id _ h =>
    h.withStore (Store.infobasesOf_modifyCluster _ id fun _ => rfl)
  addClusterAdmin := fun id _ h =>
    h.withStore (Store.infobasesOf_modifyCluster _ id fun _ => rfl)

end Service

/-! ## Configured services -/

section Seed

variable {uuids : Nat → String} {given : List String}

namespace ClusterSeed

/-- What holds of a cluster while its configured infobases are added. The uuids given to those that
are still to be added count as if they were there already. -/
structure Adding (uuids : Nat → String) (given : List String) (seeds : List InfobaseSeed)
    (infobases : List InfobaseInfo) (issued : Nat) : Prop where
  distinct : (infobases.map InfobaseInfo.uuid ++
    (seeds.filterMap InfobaseSeed.uuid).map some).Nodup
  in_use : ∀ infobaseId, some infobaseId ∈ infobases.map InfobaseInfo.uuid →
    InUse uuids given issued infobaseId
  given_later : ∀ infobaseId ∈ seeds.filterMap InfobaseSeed.uuid, infobaseId ∈ given

section Adding

variable {seed : InfobaseSeed} {seeds : List InfobaseSeed} {infobases : List InfobaseInfo}
  {issued later : Nat} {record : InfobaseInfo} {infobaseId : String}

/-- The uuids in use after a record is added. -/
theorem Adding.in_use_append
    (h : Adding uuids given (seed :: seeds) infobases issued)
    (hrecord : record.uuid = some infobaseId) (hused : InUse uuids given later infobaseId)
    (hlater : issued ≤ later) :
    ∀ other, some other ∈ (infobases ++ [record]).map InfobaseInfo.uuid →
      InUse uuids given later other := by
  intro other hmem
  rw [List.map_append, List.map_singleton, hrecord] at hmem
  rcases List.mem_append.mp hmem with hold | hnew
  · exact (h.in_use other hold).mono hlater
  · rw [Option.some.inj (List.mem_singleton.mp hnew)]
    exact hused

theorem Adding.append_given
    (h : Adding uuids given (seed :: seeds) infobases issued)
    (hseed : seed.uuid = some infobaseId) (hrecord : record.uuid = some infobaseId) :
    Adding uuids given seeds (infobases ++ [record]) issued := by
  have hdistinct := h.distinct
  have hgiven := h.given_later
  rw [List.filterMap_cons_some hseed] at hdistinct hgiven
  have hused : InUse uuids given issued infobaseId := .inl (hgiven infobaseId List.mem_cons_self)
  refine ⟨?_, h.in_use_append hrecord hused (Nat.le_refl issued), ?_⟩
  · simpa [hrecord] using hdistinct
  · intro other hother
    exact hgiven other (List.mem_cons_of_mem infobaseId hother)

theorem Adding.append_issued
    (hfresh : FreshSupply uuids given) (h : Adding uuids given (seed :: seeds) infobases issued)
    (hseed : seed.uuid = none) (hrecord : record.uuid = some (uuids issued)) :
    Adding uuids given seeds (infobases ++ [record]) (issued + 1) := by
  have hdistinct := h.distinct
  have hgiven := h.given_later
  rw [List.filterMap_cons_none hseed] at hdistinct hgiven
  have hnew : some (uuids issued) ∉ infobases.map InfobaseInfo.uuid ++
      (seeds.filterMap InfobaseSeed.uuid).map some := by
    intro hmem
    rcases List.mem_append.mp hmem with hold | hlater
    · exact hfresh.ne_of_inUse (h.in_use _ hold) rfl
    · obtain ⟨infobaseId, hinfobase, hsame⟩ := List.mem_map.mp hlater
      rw [Option.some.inj hsame] at hinfobase
      exact hfresh.not_given issued (hgiven _ hinfobase)
  have hused : InUse uuids given (issued + 1) (uuids issued) :=
    inUse_of_issued uuids given (Nat.lt_succ_self issued)
  refine ⟨?_, h.in_use_append hrecord hused (Nat.le_succ issued), hgiven⟩
  have hinserted := List.nodup_middle.mpr (List.nodup_cons.mpr ⟨hnew, hdistinct⟩)
  simpa [hrecord] using hinserted

theorem adding_start
    (seed : ClusterSeed) (uuids : Nat → String) (given : List String) (issued : Nat)
    (hgiven : ∀ infobaseId ∈ seed.givenUuids, infobaseId ∈ given)
    (hdistinct : seed.givenUuids.Nodup) :
    Adding uuids given seed.infobases seed.start.infobases issued := by
  refine ⟨hdistinct.map fun _ _ => Option.some.inj, ?_, hgiven⟩
  intro infobaseId hmem
  cases hmem

/-- The infobases of a configured cluster are told apart if the uuids given to them are. -/
theorem Adding.addInfobases
    (hfresh : FreshSupply uuids given) {cluster final : Cluster} {issued' : Nat}
    (h : Adding uuids given seeds cluster.infobases issued)
    (hadd : addInfobases uuids seeds cluster issued = .ok (final, issued')) :
    issued ≤ issued' ∧ Adding uuids given [] final.infobases issued' := by
  induction seeds generalizing cluster issued with
  | nil =>
    cases hadd
    exact ⟨Nat.le_refl _, h⟩
  | cons seed seeds ih =>
    simp only [ClusterSeed.addInfobases] at hadd
    split at hadd
    · cases hadd
    · cases huuid : seed.uuid with
      | some infobaseId =>
        simp only [huuid] at hadd
        exact ih (h.append_given huuid rfl) hadd
      | none =>
        simp only [huuid] at hadd
        obtain ⟨hissued, hfinal⟩ := ih (h.append_issued hfresh huuid rfl) hadd
        exact ⟨Nat.le_of_succ_le hissued, hfinal⟩

end Adding

end ClusterSeed

namespace Service

theorem identifies_of_addClusters
    (hfresh : FreshSupply uuids given) {seeds : List ClusterSeed} {service final : Service}
    (hgiven : ∀ seed ∈ seeds, ∀ infobaseId ∈ seed.givenUuids, infobaseId ∈ given)
    (hdistinct : ∀ seed ∈ seeds, seed.givenUuids.Nodup)
    (h : service.Identifies uuids given) (hadd : addClusters uuids seeds service = .ok final) :
    final.Identifies uuids given := by
  induction seeds generalizing service with
  | nil =>
    cases hadd
    exact h
  | cons seed seeds ih =>
    simp only [addClusters, bind, Except.bind] at hadd
    split at hadd
    · cases hadd
    · next added hinfobases =>
      split at hadd
      · cases hadd
      · have hstart := seed.adding_start uuids given service.issued
          (hgiven seed List.mem_cons_self) (hdistinct seed List.mem_cons_self)
        obtain ⟨hissued, hnodup, hused, -⟩ := hstart.addInfobases hfresh hinfobases
        rw [List.filterMap_nil, List.map_nil, List.append_nil] at hnodup
        refine ih ?_ ?_ ?_ hadd
        · intro other hother
          exact hgiven other (List.mem_cons_of_mem seed hother)
        · intro other hother
          exact hdistinct other (List.mem_cons_of_mem seed hother)
        · have huuids (clusterId : String) :
              (service.store.putCluster seed.id added.1).uuidsOf clusterId =
                if clusterId = seed.id then added.1.infobases.map InfobaseInfo.uuid
                else service.store.uuidsOf clusterId := by
            rw [Store.uuidsOf, Store.infobasesOf_putCluster, apply_ite (List.map _)]
            rfl
          constructor
          · intro clusterId
            rw [huuids clusterId]
            split
            · exact hnodup
            · exact h.distinct clusterId
          · intro clusterId infobaseId hmem
            rw [huuids clusterId] at hmem
            split at hmem
            · exact hused infobaseId hmem
            · exact (h.in_use clusterId infobaseId hmem).mono hissued

/-- A configuration that gives no uuid twice within a cluster gives a service whose infobases are
told apart. -/
theorem identifies_of_ofSeed
    {seed : StoreSeed} (hfresh : FreshSupply uuids seed.givenUuids)
    (hdistinct : ∀ cluster ∈ seed.clusters, cluster.givenUuids.Nodup) {start : Service}
    (hseed : ofSeed uuids seed = .ok start) : start.Identifies uuids seed.givenUuids := by
  refine identifies_of_addClusters hfresh ?_ hdistinct ?_ hseed
  · intro cluster hcluster infobaseId hmem
    exact List.mem_flatMap.mpr ⟨cluster, hcluster, hmem⟩
  · constructor
    · intro clusterId
      exact List.nodup_nil
    · intro clusterId infobaseId hmem
      cases hmem

end Service

end Seed

end InfobaseGateway
