import InfobaseGateway.Proofs.Store.Holding

/-!
# Infobases that are told apart

Every request about an infobase names it by its uuid, and the store takes the first record of the
cluster that has it. A uuid therefore means one infobase only if the cluster has it once. A creation
adds a uuid at the end of a cluster, a removal takes out the first record of a uuid, and no other
request changes which uuids there are.
-/

namespace InfobaseGateway

namespace EndpointRequest

/-- The request is about the infobase, which it expects to be there. -/
def Concerns (clusterId infobaseId : String) : EndpointRequest → Prop
  | getInfobaseSessions id member => id = clusterId ∧ member = infobaseId
  | updateInfobase info | unregisterInfobase info =>
    info.clusterId = clusterId ∧ info.uuid = some infobaseId
  | _ => False

end EndpointRequest

namespace Store

/-- The uuids of the infobases of a cluster, in their order. -/
def uuidsOf (store : Store) (clusterId : String) : List (Option String) :=
  (store.infobasesOf clusterId).map fun record => record.uuid

/-- No two infobases of one cluster have the same uuid. -/
def Distinct (store : Store) : Prop :=
  ∀ clusterId, (store.uuidsOf clusterId).Nodup

variable {before after : Store} {uuid clusterId infobaseId : String} {request : EndpointRequest}

theorem uuidsOf_of_get?
    {store : Store} {cluster : Cluster} (hget : store.clusters.get? clusterId = some cluster) :
    store.uuidsOf clusterId = cluster.infobases.map fun record => record.uuid := by
  rw [uuidsOf, infobasesOf_of_get? hget]

theorem hasInfobase_iff_mem_uuidsOf (store : Store) (clusterId infobaseId : String) :
    store.HasInfobase clusterId infobaseId ↔ some infobaseId ∈ store.uuidsOf clusterId := by
  constructor
  · rintro ⟨cluster, hget, record, hmem, huuid⟩
    rw [uuidsOf_of_get? hget, ← huuid]
    exact List.mem_map_of_mem hmem
  · intro hmem
    cases hget : store.clusters.get? clusterId with
    | none => simp [uuidsOf, infobasesOf, hget] at hmem
    | some cluster =>
      rw [uuidsOf_of_get? hget] at hmem
      obtain ⟨record, hrecord, huuid⟩ := List.mem_map.mp hmem
      exact ⟨cluster, hget, record, hrecord, huuid⟩

/-! ## What requests change -/

theorem Replaces.uuidsOf_of_ne
    {id : String} {old new : Cluster} (h : before.Replaces after id old new)
    (hother : clusterId ≠ id) : after.uuidsOf clusterId = before.uuidsOf clusterId := by
  rw [uuidsOf, h.infobasesOf_of_ne hother, uuidsOf]

/-- A removal takes out one record of its uuid. -/
theorem uuidsOf_of_removes
    (hremoves : request.Removes clusterId infobaseId)
    (heffect : request.Effect uuid before after) :
    ∃ front back, before.uuidsOf clusterId = front ++ some infobaseId :: back ∧
      after.uuidsOf clusterId = front ++ back := by
  cases request with
  | unregisterInfobase info =>
    obtain ⟨id, hid, cluster, front, record, back, hsplit, hrecord, -, hreplaces⟩ := heffect
    obtain ⟨rfl, hinfo⟩ := hremoves
    have huuid : record.uuid = some infobaseId := hrecord.trans (hid.symm.trans hinfo)
    refine ⟨front.map InfobaseInfo.uuid, back.map InfobaseInfo.uuid, ?_, ?_⟩
    · rw [uuidsOf_of_get? hreplaces.old_stored, hsplit, List.map_append, List.map_cons, huuid]
    · rw [uuidsOf_of_get? hreplaces.new_stored, List.map_append]
  | _ => exact hremoves.elim

/-- Which uuids a cluster has after a request: the same, or one more after a creation, or all but the
one of a record that was removed. -/
theorem uuidsOf_cases
    (heffect : request.Effect uuid before after) (clusterId : String) :
    after.uuidsOf clusterId = before.uuidsOf clusterId ∨
      (request.IsCreation ∧
        after.uuidsOf clusterId = before.uuidsOf clusterId ++ [some uuid]) ∨
      ∃ front removed back, before.uuidsOf clusterId = front ++ removed :: back ∧
        after.uuidsOf clusterId = front ++ back := by
  cases request with
  | createInfobase info =>
    obtain ⟨cluster, name, -, -, hreplaces⟩ := heffect
    by_cases hsame : clusterId = info.clusterId
    · subst hsame
      refine .inr (.inl ⟨trivial, ?_⟩)
      rw [uuidsOf_of_get? hreplaces.old_stored, uuidsOf_of_get? hreplaces.new_stored,
        Cluster.append, List.map_append, List.map_singleton]
    · exact .inl (hreplaces.uuidsOf_of_ne hsame)
  | updateInfobase patch =>
    obtain ⟨id, cluster, front, record, back, changed, hsplit, -, -, hreplaces, -, huuid, -⟩ :=
      heffect
    refine .inl ?_
    by_cases hsame : clusterId = patch.clusterId
    · subst hsame
      rw [uuidsOf_of_get? hreplaces.old_stored, uuidsOf_of_get? hreplaces.new_stored, hsplit]
      simp [huuid]
    · exact hreplaces.uuidsOf_of_ne hsame
  | unregisterInfobase info =>
    obtain ⟨id, hid, -⟩ := id heffect
    by_cases hsame : clusterId = info.clusterId
    · have hremoves : (EndpointRequest.unregisterInfobase info).Removes clusterId id :=
        ⟨hsame.symm, hid⟩
      obtain ⟨front, back, hbefore, hafter⟩ := uuidsOf_of_removes hremoves heffect
      exact .inr (.inr ⟨front, some id, back, hbefore, hafter⟩)
    · obtain ⟨-, -, cluster, front, record, back, -, -, -, hreplaces⟩ := heffect
      exact .inl (hreplaces.uuidsOf_of_ne hsame)
  | terminateSession session =>
    obtain ⟨cluster, entry, remaining, -, -, -, hreplaces⟩ := heffect
    refine .inl ?_
    by_cases hsame : clusterId = session.clusterId
    · subst hsame
      rw [uuidsOf_of_get? hreplaces.old_stored, uuidsOf_of_get? hreplaces.new_stored]
    · exact hreplaces.uuidsOf_of_ne hsame
  | _ =>
    cases heffect
    exact .inl rfl

/-- A uuid that a cluster has after a request was there before, or the request made it. -/
theorem mem_uuidsOf_of_effect
    (heffect : request.Effect uuid before after)
    (hmem : some infobaseId ∈ after.uuidsOf clusterId) :
    some infobaseId ∈ before.uuidsOf clusterId ∨ request.IsCreation ∧ infobaseId = uuid := by
  rcases uuidsOf_cases heffect clusterId with
    hsame | ⟨hcreation, happended⟩ | ⟨front, removed, back, hbefore, hafter⟩
  · exact .inl (hsame ▸ hmem)
  · rw [happended] at hmem
    rcases List.mem_append.mp hmem with hold | hnew
    · exact .inl hold
    · exact .inr ⟨hcreation, Option.some.inj (List.mem_singleton.mp hnew)⟩
  · rw [hafter] at hmem
    rw [hbefore]
    rcases List.mem_append.mp hmem with hfront | hback
    · exact .inl (List.mem_append_left _ hfront)
    · exact .inl (List.mem_append_right _ (List.mem_cons_of_mem removed hback))

/-- Infobases stay told apart, as long as no cluster has the uuid of a new one. -/
theorem Distinct.of_effect
    (h : before.Distinct) (heffect : request.Effect uuid before after)
    (hunused : request.IsCreation → ∀ clusterId, some uuid ∉ before.uuidsOf clusterId) :
    after.Distinct := by
  intro clusterId
  have hnodup := h clusterId
  rcases uuidsOf_cases heffect clusterId with
    hsame | ⟨hcreation, happended⟩ | ⟨front, removed, back, hbefore, hafter⟩
  · rw [hsame]
    exact hnodup
  · have hnew := hunused hcreation clusterId
    rw [happended]
    refine List.nodup_append.mpr ⟨hnodup, List.nodup_singleton _, ?_⟩
    rintro old hold new hmem rfl
    rw [List.mem_singleton.mp hmem] at hold
    exact hnew hold
  · rw [hbefore] at hnodup
    rw [hafter]
    exact hnodup.sublist (List.Sublist.append_left (List.sublist_cons_self removed back) front)

/-- Once its infobases are told apart, a cluster does not have the uuid of one that is removed. -/
theorem Distinct.not_mem_of_removes
    (h : before.Distinct) (hremoves : request.Removes clusterId infobaseId)
    (heffect : request.Effect uuid before after) :
    some infobaseId ∉ after.uuidsOf clusterId := by
  obtain ⟨front, back, hbefore, hafter⟩ := uuidsOf_of_removes hremoves heffect
  have hnodup := h clusterId
  rw [hbefore] at hnodup
  rw [hafter]
  exact (List.nodup_middle.mp hnodup).notMem

/-! ## What is not there -/

theorem not_targetStored_of_not_mem
    {store : Store} (habsent : some infobaseId ∉ store.uuidsOf clusterId)
    (hconcerns : request.Concerns clusterId infobaseId) : ¬request.TargetStored store := by
  rw [← hasInfobase_iff_mem_uuidsOf] at habsent
  cases request with
  | getInfobaseSessions id member =>
    obtain ⟨rfl, rfl⟩ := hconcerns
    exact habsent
  | updateInfobase info | unregisterInfobase info =>
    obtain ⟨rfl, huuid⟩ := hconcerns
    rintro ⟨id, hid, hstored⟩
    rw [huuid] at hid
    cases hid
    exact habsent hstored
  | _ => exact hconcerns.elim

/-- A request about an infobase that is not there is rejected for that reason. -/
theorem rejects_of_not_mem
    {store : Store} (habsent : some infobaseId ∉ store.uuidsOf clusterId)
    (hconcerns : request.Concerns clusterId infobaseId) (uuid : String) :
    ∃ rejection, store.handle uuid request = .error rejection ∧ rejection.IsMissing := by
  have hmissing := not_targetStored_of_not_mem habsent hconcerns
  have hother : ¬request.IsCreation := by
    cases request with
    | createInfobase info => exact hconcerns.elim
    | _ => exact id
  have hexplains := store.explains_handle uuid request
  cases hhandle : store.handle uuid request with
  | ok answered =>
    rw [hhandle] at hexplains
    exact absurd hexplains.2.1 hmissing
  | error rejection =>
    rw [hhandle] at hexplains
    rcases hexplains with ⟨hrejection, -⟩ | ⟨-, hcreation⟩ | ⟨-, hstored, -⟩
    · exact ⟨rejection, rfl, hrejection⟩
    · exact absurd hcreation hother
    · exact absurd hstored hmissing

end Store

end InfobaseGateway
